import Bindery.Java.Module
import Bindery.Proofs.Lookup
import Bindery.Proofs.Run.Alone
import Mathlib.Data.Finset.Card
import Mathlib.Data.List.Nodup

/-!
# Histories of a cache

A cache is used for a whole run, and the source behind it may change meanwhile: entries are set and
removed, and what was unknown becomes known.  A refusal is not remembered, so the source is asked
again; an answer is remembered under the reflection name, and from then on the source does not count
any more for this name.

A history is a list of events (`History.Event`).  Beside the cache stands the list of all answers
that its look-ups gave; this list grows with every answer, also with one that comes from the cache.
The invariant `History.Recalls` is that both hold the same: a kind is remembered under a name
exactly when it was given as an answer for the name, and no name is remembered twice.
`History.first_answer_stays` reads off it what a look-up gives after any history.

Reviews and whole processings use the cache, too.  They look up the container of their declaration
and nothing else, which is what `Consults` says of a computation, so they count as look-ups.
-/

namespace Bindery

/-! ### Answers that are remembered -/

namespace KindCache

variable {source : KindSource} {cache : KindCache} {c : ClassName}

/-- An unknown container is asked for, and the answer is remembered. -/
theorem lookup_of_unknown (h : cache.known.lookup c.reflectionName = none) :
    cache.lookup source c = (source c, (cache.ask source c).2.remember c (source c)) := by
  rw [lookup, h]
  rfl

/-- Remembering an answer asks nothing. -/
theorem asked_remember (cache : KindCache) (answer : Except HostFault ContainerKind) :
    (cache.remember c answer).asked = cache.asked := by
  cases answer <;> rfl

/-- An answer is found under the name of its container, a refusal is not, and all others stay. -/
theorem lookup_remember (h : cache.known.lookup c.reflectionName = none)
    (answer : Except HostFault ContainerKind) (name : String) :
    (cache.remember c answer).known.lookup name =
      if name = c.reflectionName then answer.toOption else cache.known.lookup name := by
  by_cases hname : name = c.reflectionName
  · subst hname
    cases answer <;> simp [remember, h]
  · rw [if_neg hname]
    cases answer with
    | error fault => rfl
    | ok kind => exact lookup_cons_of_ne kind _ hname

end KindCache

/-! ### Computations that look up one container -/

/-- A computation consults a container if it looks up the kind of this container once, and goes on
with the answer; it consults none if it neither uses the source nor the cache. -/
def Consults {α : Type} (container? : Option ClassName) (computation : KindSource → Asking α) :
    Prop :=
  match container? with
  | none => ∃ result, ∀ source cache, computation source cache = (result, cache)
  | some c => ∃ next : ContainerKind → Except Failure α, ∀ source cache,
      computation source cache =
        (((cache.lookup source c).1.mapError Failure.host).bind next, (cache.lookup source c).2)

theorem consults_withKind {α : Type} (c : ClassName) (next : ContainerKind → Except Failure α) :
    Consults (some c) fun source => Asking.withKind source c next := by
  refine ⟨next, fun source cache => ?_⟩
  simp only [Asking.withKind]
  rcases cache.lookup source c with ⟨fault | kind, after⟩ <;> rfl

/-- The cache after a computation that consults a container. -/
theorem Consults.snd_eq {α : Type} {container? : Option ClassName}
    {computation : KindSource → Asking α} (h : Consults container? computation)
    (source : KindSource) (cache : KindCache) :
    (computation source cache).2 =
      container?.elim cache fun c => (cache.lookup source c).2 := by
  cases container? with
  | none =>
      obtain ⟨result, h⟩ := h
      rw [h, Option.elim_none]
  | some c =>
      obtain ⟨next, h⟩ := h
      rw [h, Option.elim_some]

namespace Declaration

/-- **A review looks up the container** of the declaration, and that of a class nothing. -/
theorem consults_review (components : Components) (d : Declaration) :
    Consults d.container? fun source => d.review components source := by
  cases d with
  | ofClass d => exact ⟨d.review components, fun _ _ => rfl⟩
  | ofFunction d => exact consults_withKind d.container (d.review components)
  | ofProperty d => exact consults_withKind d.container (d.getter.review components)

/-- **So does the processing of a declaration**, whatever becomes of it. -/
theorem consults_process (render : Renderer) (components : Components) (d : Declaration) :
    Consults d.container? fun source => d.process render components source := by
  cases hcontainer : d.container? with
  | none =>
      refine ⟨d.conclude render components none, fun source cache => ?_⟩
      show d.process render components source cache = _
      rw [process_eq, settle, hcontainer]
  | some c =>
      refine ⟨fun kind => d.conclude render components (some kind), fun source cache => ?_⟩
      show d.process render components source cache = _
      rw [process_eq, settle, hcontainer]
      dsimp only
      rcases cache.lookup source c with ⟨fault | kind, after⟩ <;> rfl

end Declaration

/-! ### Events -/

namespace History

/-- What can happen while a cache is in use. -/
inductive Event where
  /-- From now on the source gives other answers, or refuses them. -/
  | change (source : KindSource)
  | lookup (container : ClassName)
  | review (components : Components) (d : Declaration)
  | process (render : Renderer) (components : Components) (d : Declaration)

/-- The source and the cache between two events. -/
structure State where
  source : KindSource
  cache : KindCache := {}

/-- The container whose kind is looked up in an event. -/
def Event.container? : Event → Option ClassName
  | .change _ => none
  | .lookup c => some c
  | .review _ d => d.container?
  | .process _ _ d => d.container?

namespace State

/-- The state before anything happened. -/
def fresh (source : KindSource) : State := ⟨source, {}⟩

/-- A look-up, with the cache afterwards. -/
def lookup (s : State) (c : ClassName) : Except HostFault ContainerKind × KindCache :=
  s.cache.lookup s.source c

/-- The state after an event. -/
def step (s : State) : Event → State
  | .change source => { s with source := source }
  | .lookup c => { s with cache := (s.lookup c).2 }
  | .review components d => { s with cache := (d.review components s.source s.cache).2 }
  | .process render components d =>
    { s with cache := (d.process render components s.source s.cache).2 }

/-- The state after a list of events. -/
def run (s : State) (events : List Event) : State := events.foldl step s

/-- The answer to the look-up in an event, with the name that it was given for. -/
def answer? (s : State) (event : Event) : Option (String × ContainerKind) :=
  event.container?.bind fun c => (s.lookup c).1.toOption.map (c.reflectionName, ·)

/-- The answers that are given during a list of events. -/
def answers (s : State) : List Event → List (String × ContainerKind)
  | [] => []
  | event :: events => (s.answer? event).toList ++ (s.step event).answers events

variable {s : State}

theorem run_append (events further : List Event) :
    s.run (events ++ further) = (s.run events).run further := by
  rw [run, List.foldl_append]
  rfl

/-- **An event changes the cache by its look-up only.** -/
theorem cache_step (s : State) (event : Event) :
    (s.step event).cache = event.container?.elim s.cache fun c => (s.lookup c).2 := by
  cases event with
  | change source => rfl
  | lookup c => rfl
  | review components d => exact (d.consults_review components).snd_eq s.source s.cache
  | process render components d =>
      exact (d.consults_process render components).snd_eq s.source s.cache

end State

/-! ### What is remembered -/

/-- **A state recalls answers** if exactly these are remembered, each name once. -/
structure Recalls (answers : List (String × ContainerKind)) (s : State) : Prop where
  remembered : ∀ name kind,
    s.cache.known.lookup name = some kind ↔ (name, kind) ∈ answers
  distinct : (s.cache.known.map (·.1)).Nodup

namespace Recalls

variable {answers : List (String × ContainerKind)} {s : State} {c : ClassName}
    {kind : ContainerKind}

/-- Nothing was answered at first. -/
theorem fresh (source : KindSource) : Recalls [] (State.fresh source) :=
  ⟨by simp [State.fresh], List.nodup_nil⟩

/-- What was never answered is not remembered. -/
theorem lookup_eq_none (h : Recalls answers s) {name : String}
    (hname : name ∉ answers.map (·.1)) : s.cache.known.lookup name = none := by
  refine Option.eq_none_iff_forall_ne_some.mpr fun kind hkind => hname ?_
  exact List.mem_map.mpr ⟨_, (h.remembered name kind).mp hkind, rfl⟩

/-- **A name that was answered gets the same answer** from the cache, and nothing changes. -/
theorem lookup_of_mem (h : Recalls answers s) (hkind : (c.reflectionName, kind) ∈ answers) :
    s.lookup c = (.ok kind, s.cache) := by
  rw [State.lookup, KindCache.lookup, (h.remembered _ kind).mpr hkind]

/-- **A name that was not answered yet** is passed on to the source. -/
theorem lookup_of_not_mem (h : Recalls answers s)
    (hname : c.reflectionName ∉ answers.map (·.1)) :
    s.lookup c = (s.source c, (s.cache.ask s.source c).2.remember c (s.source c)) :=
  KindCache.lookup_of_unknown (h.lookup_eq_none hname)

/-- The answers that are recalled are those of as many names as are remembered. -/
theorem size_eq (h : Recalls answers s) :
    s.cache.size = (answers.map (·.1)).toFinset.card := by
  have hsame : (answers.map (·.1)).toFinset = (s.cache.known.map (·.1)).toFinset := by
    ext name
    simp only [List.mem_toFinset, List.mem_map, Prod.exists, exists_and_right, exists_eq_right]
    refine exists_congr fun kind => ?_
    rw [← h.remembered name kind, lookup_eq_some_iff_of_nodup h.distinct]
  rw [hsame, List.toFinset_card_of_nodup h.distinct, List.length_map, KindCache.size]

/-- An answer that was given before adds nothing. -/
theorem again (h : Recalls answers s) {answer : String × ContainerKind} (hmem : answer ∈ answers) :
    Recalls (answers ++ [answer]) s := by
  refine ⟨fun name kind => ?_, h.distinct⟩
  rw [h.remembered, List.mem_append, List.mem_singleton]
  exact ⟨.inl, fun hor => hor.elim id fun heq => heq ▸ hmem⟩

/-- An answer of the source is recalled, and a refusal is not. -/
theorem remember (h : Recalls answers s) (hname : c.reflectionName ∉ answers.map (·.1))
    (answer : Except HostFault ContainerKind) :
    Recalls (answers ++ (answer.toOption.map (c.reflectionName, ·)).toList)
      { s with cache := s.cache.remember c answer } := by
  have hnone := h.lookup_eq_none hname
  refine ⟨fun other kind => ?_, ?_⟩
  · rw [KindCache.lookup_remember hnone, List.mem_append, ← h.remembered]
    by_cases hother : other = c.reflectionName
    · subst hother
      cases answer <;> simp [hnone, eq_comm]
    · cases answer <;> simp [hother]
  · cases answer with
    | error fault => exact h.distinct
    | ok kind =>
        rw [KindCache.remember, List.map_cons, List.nodup_cons]
        exact ⟨lookup_eq_none_iff_not_mem.mp hnone, h.distinct⟩

/-- What is recalled depends neither on the source nor on how often it was asked. -/
theorem of_known (h : Recalls answers s) {s' : State} (hknown : s'.cache.known = s.cache.known) :
    Recalls answers s' :=
  ⟨hknown ▸ h.remembered, hknown ▸ h.distinct⟩

/-- **Every event keeps the invariant**, with the answer to its look-up added to the answers. -/
theorem step (h : Recalls answers s) (event : Event) :
    Recalls (answers ++ (s.answer? event).toList) (s.step event) := by
  have hcache := s.cache_step event
  rw [State.answer?]
  cases hcontainer : event.container? with
  | none =>
      rw [hcontainer] at hcache
      simpa using h.of_known (congrArg KindCache.known hcache)
  | some c =>
      rw [hcontainer, Option.elim_some] at hcache
      rw [Option.bind_some]
      by_cases hname : c.reflectionName ∈ answers.map (·.1)
      · obtain ⟨⟨_, kind⟩, hmem, rfl⟩ := List.mem_map.mp hname
        have hlookup := h.lookup_of_mem hmem
        rw [hlookup] at hcache ⊢
        exact (h.again hmem).of_known (congrArg KindCache.known hcache)
      · have hlookup := h.lookup_of_not_mem hname
        rw [hlookup] at hcache ⊢
        -- asking changes the count only
        have hasked : Recalls answers { s with cache := (s.cache.ask s.source c).2 } :=
          h.of_known rfl
        exact (hasked.remember hname (s.source c)).of_known (congrArg KindCache.known hcache)

end Recalls

/-- **A history keeps the invariant.** -/
theorem Recalls.run {answers : List (String × ContainerKind)} {s : State} (h : Recalls answers s)
    (events : List Event) : Recalls (answers ++ s.answers events) (s.run events) := by
  induction events generalizing answers s with
  | nil => simpa [State.answers, State.run] using h
  | cons event events ih =>
      rw [State.answers, ← List.append_assoc]
      exact ih (h.step event)

/-- After any history from an empty cache, the answers of this history are recalled. -/
theorem recalls_run (source : KindSource) (events : List Event) :
    Recalls ((State.fresh source).answers events) ((State.fresh source).run events) := by
  simpa using (Recalls.fresh source).run events

/-- Nothing that is remembered is lost or changed later. -/
theorem Recalls.stays {answers : List (String × ContainerKind)} {s : State} (h : Recalls answers s)
    (events : List Event) {name : String} {kind : ContainerKind}
    (hkind : s.cache.known.lookup name = some kind) :
    (s.run events).cache.known.lookup name = some kind := by
  rw [(h.run events).remembered, List.mem_append]
  exact .inl ((h.remembered name kind).mp hkind)

open State in
/-- **The first answer for a name stays.**  Take any source, and any history of look-ups, reviews,
processings and changes of the source that begins with an empty cache.

* A look-up of a name that was answered before gives the same answer and changes nothing, so the
  source is not asked, whichever it is by now.
* Any other look-up asks the source once and gives its present answer.  This is remembered if it is
  a kind, and nothing else is changed by it.
* As many names are remembered as were answered with a kind.
* What is remembered stays, whatever happens later.
* Reviews and processings of classes use neither the source nor the cache, and those of functions
  and properties look up their container, once, and do nothing else with either of them. -/
theorem first_answer_stays (source : KindSource) (events : List Event) :
    (∀ c kind, (c.reflectionName, kind) ∈ (fresh source).answers events →
      ((fresh source).run events).lookup c =
        (.ok kind, ((fresh source).run events).cache)) ∧
    (∀ c, c.reflectionName ∉ ((fresh source).answers events).map (·.1) →
      (((fresh source).run events).lookup c).1 = ((fresh source).run events).source c ∧
      (((fresh source).run events).lookup c).2.asked =
        ((fresh source).run events).cache.asked + 1 ∧
      ∀ name, (((fresh source).run events).lookup c).2.known.lookup name =
        if name = c.reflectionName then (((fresh source).run events).source c).toOption
        else ((fresh source).run events).cache.known.lookup name) ∧
    ((fresh source).run events).cache.size =
      (((fresh source).answers events).map (·.1)).toFinset.card ∧
    (∀ further name kind,
      ((fresh source).run events).cache.known.lookup name = some kind →
        ((fresh source).run (events ++ further)).cache.known.lookup name = some kind) ∧
    ∀ (d : Declaration) (components : Components) (render : Renderer),
      Consults d.container? (fun source => d.review components source) ∧
      Consults d.container? (fun source => d.process render components source) := by
  have hrecalls := recalls_run source events
  refine ⟨fun c kind hkind => hrecalls.lookup_of_mem hkind, fun c hname => ?_, hrecalls.size_eq,
    fun further name kind hkind => ?_,
    fun d components render => ⟨d.consults_review components, d.consults_process render components⟩⟩
  · rw [hrecalls.lookup_of_not_mem hname]
    refine ⟨rfl, KindCache.asked_remember _ _, KindCache.lookup_remember ?_ _⟩
    exact hrecalls.lookup_eq_none hname
  · rw [State.run_append]
    exact hrecalls.stays further hkind

/-- A source that knows no container. -/
def silent : KindSource := fun c => .error (.missingMetadata c.reflectionName)

/-- A function that is rejected, since nobody may use it. -/
def hiddenHost : FunctionDeclaration where
  container := ⟨"app", "Hosts", []⟩
  name := "host"
  visibility := .privateUse
  returnType := .primitive .int

/-- The container of the function is looked up in vain, then it becomes known while the function is
rejected, and then the source forgets it. -/
def forgetting : List Event :=
  [.lookup hiddenHost.container, .change fun _ => .ok .object,
    .process (Java.renderModule {}) {} (.ofFunction hiddenHost), .change silent,
    .lookup ⟨"app", "Ports", []⟩]

open State in
/-- After this history the source would refuse the container, but its kind is remembered; another
one that was never known is asked for again. -/
theorem first_answer_stays_forgetting :
    ((fresh silent).run forgetting).lookup hiddenHost.container =
      (.ok .object, ((fresh silent).run forgetting).cache) ∧
    ((fresh silent).run forgetting).source hiddenHost.container =
      .error (.missingMetadata "app.Hosts") ∧
    (((fresh silent).run forgetting).lookup ⟨"app", "Ports", []⟩).1 =
      .error (.missingMetadata "app.Ports") ∧
    (((fresh silent).run forgetting).lookup ⟨"app", "Ports", []⟩).2.asked = 4 ∧
    ((fresh silent).run forgetting).cache.size = 1 := by
  obtain ⟨hagain, hother, hsize, -, -⟩ := first_answer_stays silent forgetting
  have hanswers : (fresh silent).answers forgetting = [("app.Hosts", .object)] := by
    decide
  rw [hanswers] at hagain hother hsize
  obtain ⟨hrefused, hasked, -⟩ := hother ⟨"app", "Ports", []⟩ (by decide)
  exact ⟨hagain hiddenHost.container .object (by decide), by decide,
    hrefused.trans (by decide), hasked.trans (by decide), hsize⟩

end History

end Bindery
