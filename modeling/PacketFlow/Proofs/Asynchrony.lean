import PacketFlow.Capability.Resolver

/-! What a resolver answers over its whole life.

What the probe found settles how every query is answered. Where packets have a flag, each query
reads the flag of its packet. Where it cannot be told what is asynchronous, nothing is. Where
content decides, plain chat is asynchronous until the first chat without content, and nothing is
after that. In which manner a query is made matters only when a flag cannot be read.
-/

set_option autoImplicit false

namespace PacketFlow

/-- The first component in which two releases differ is lower. -/
def Version.Precedes (a b : Version) : Prop :=
  a.major < b.major ∨ a.major = b.major ∧
    (a.minor < b.minor ∨ a.minor = b.minor ∧ a.patch < b.patch)

theorem Version.isAtLeast_eq_false_iff {a b : Version} :
    a.isAtLeast b = false ↔ a.Precedes b := by
  have by_component (x y : UInt32) : compare x y =
      if x.toNat < y.toNat then .lt else if x.toNat = y.toNat then .eq else .gt := by
    have unfolded : compare x y = compareOfLessAndEq x y := rfl
    rw [unfolded, compareOfLessAndEq]
    simp only [UInt32.lt_iff_toNat_lt, UInt32.toNat_inj]
  have whole : compare a b = Version.compare a b := rfl
  simp only [isAtLeast, whole, Version.compare, by_component, Precedes, UInt32.lt_iff_toNat_lt,
    ← UInt32.toNat_inj]
  -- The first component that is not equal decides.
  repeat' split
  all_goals
    simp
    omega

namespace Capability

theorem decide_of_flag {discovery : FlagLookup} (version : Version)
    (found : discovery = .named ∨ discovery = .accessors 2) :
    decide discovery version = .packetFlag := by
  rcases found with rfl | rfl <;> rfl

theorem decide_of_silent {count : Nat} {version : Version}
    (silent : count = 1 ∨ count ≠ 2 ∧ version.Precedes .bountifulUpdate) :
    decide (.accessors count) version = .alwaysSync := by
  rcases silent with rfl | ⟨two, early⟩
  · rfl
  · have old := Version.isAtLeast_eq_false_iff.mpr early
    unfold decide
    split <;> simp_all

theorem decide_of_content {count : Nat} {version : Version} (one : count ≠ 1) (two : count ≠ 2)
    (late : ¬version.Precedes .bountifulUpdate) :
    decide (.accessors count) version = .contentBased := by
  rw [← Version.isAtLeast_eq_false_iff] at late
  unfold decide
  split <;> simp_all

end Capability

namespace Event

/-- Chat of a player that is no command. -/
def IsPlainChat (event : Event) : Prop :=
  event.type = .clientChat ∧
    ∃ content ∈ event.packet.strings.head?, content.toList.head? ≠ some '/'

def IsUnreadableChat (event : Event) : Prop :=
  event.type = .clientChat ∧ event.packet.strings = []

instance (event : Event) : Decidable event.IsPlainChat :=
  inferInstanceAs (Decidable (event.type = .clientChat ∧
    ∃ content ∈ event.packet.strings.head?, content.toList.head? ≠ some '/'))

instance (event : Event) : Decidable event.IsUnreadableChat :=
  inferInstanceAs (Decidable (event.type = .clientChat ∧ event.packet.strings = []))

end Event

/-- How it is asked whether a packet is asynchronous. -/
inductive Manner where
  | plain
  /-- What cannot be told counts as synchronous. -/
  | lenient
  | through (marker : Marker)

/-- What is told to who asks, when an answer was found or could not be. -/
def Manner.tell : Manner → Except FlagFailure Bool → Except FlagFailure Bool
  | .lenient, .error _ => .ok false
  | _, answer => answer

@[simp] theorem Manner.tell_ok (manner : Manner) (answer : Bool) :
    manner.tell (.ok answer) = .ok answer := by
  cases manner <;> rfl

structure Query where
  manner : Manner
  event : Event

def Query.plainly (query : Query) : Query := { query with manner := .plain }

namespace Resolver

def ask (resolver : Resolver) (query : Query) : Reading (Except FlagFailure Bool) :=
  match query.manner with
  | .plain => resolver.isAsync query.event
  | .lenient =>
    let reading := resolver.allowsAsync query.event
    { answer := .ok reading.answer, resolver := reading.resolver, notices := reading.notices }
  | .through marker => marker.isAsync resolver query.event

/-- The answers to queries that are made one after the other. -/
def answers (resolver : Resolver) : List Query → List (Except FlagFailure Bool)
  | [] => []
  | query :: rest => (resolver.ask query).answer :: (resolver.ask query).resolver.answers rest

def asked (resolver : Resolver) (queries : List Query) : Resolver :=
  queries.foldl (fun resolver query => (resolver.ask query).resolver) resolver

/-- Every manner asks the same of the resolver. -/
theorem ask_eq (resolver : Resolver) (query : Query) :
    (resolver.ask query).answer = query.manner.tell (resolver.isAsync query.event).answer ∧
      (resolver.ask query).resolver = (resolver.isAsync query.event).resolver := by
  unfold ask allowsAsync
  cases query.manner with
  | plain | through => exact ⟨rfl, rfl⟩
  | lenient =>
    cases found : (resolver.isAsync query.event).answer <;> simp [found, Manner.tell]

theorem answers_cons (resolver : Resolver) (query : Query) (rest : List Query) :
    resolver.answers (query :: rest) =
      query.manner.tell (resolver.isAsync query.event).answer ::
        (resolver.isAsync query.event).resolver.answers rest := by
  rw [answers, (resolver.ask_eq query).1, (resolver.ask_eq query).2]

theorem asked_cons (resolver : Resolver) (query : Query) (rest : List Query) :
    resolver.asked (query :: rest) = (resolver.isAsync query.event).resolver.asked rest := by
  rw [asked, List.foldl_cons, (resolver.ask_eq query).2]
  rfl

theorem answers_plainly (resolver : Resolver) (queries : List Query) :
    resolver.answers queries = List.zipWith (fun query answer => query.manner.tell answer) queries
        (resolver.answers (queries.map Query.plainly)) ∧
      resolver.asked queries = resolver.asked (queries.map Query.plainly) := by
  induction queries generalizing resolver with
  | nil => exact ⟨rfl, rfl⟩
  | cons query rest ih =>
    obtain ⟨told, left⟩ := ih (resolver.isAsync query.event).resolver
    rw [List.map_cons, answers_cons, asked_cons, answers_cons, asked_cons, told, left]
    exact ⟨rfl, rfl⟩

theorem answers_of_sync {resolver : Resolver} (sync : resolver.capability = .alwaysSync)
    (queries : List Query) :
    resolver.answers queries = queries.map (fun _ => .ok false) ∧
      resolver.asked queries = resolver := by
  induction queries with
  | nil => exact ⟨rfl, rfl⟩
  | cons query rest ih =>
    have reading : resolver.isAsync query.event =
        { answer := .ok false, resolver := resolver } := by
      simp only [isAsync, sync]
    rw [answers_cons, asked_cons, reading, ih.1, ih.2, Manner.tell_ok]
    exact ⟨rfl, rfl⟩

theorem answers_of_flag {resolver : Resolver} (flagged : resolver.capability = .packetFlag)
    (queries : List Query) :
    resolver.answers queries = queries.mapIdx (fun k query =>
        query.manner.tell (resolver.probe.flag (resolver.reads + k) query.event.packet)) ∧
      resolver.asked queries = { resolver with reads := resolver.reads + queries.length } := by
  induction queries generalizing resolver with
  | nil => exact ⟨rfl, rfl⟩
  | cons query rest ih =>
    have reading : resolver.isAsync query.event =
        { answer := resolver.probe.flag resolver.reads query.event.packet,
          resolver := { resolver with reads := resolver.reads + 1 } } := by
      simp only [isAsync, flagged]
    -- Reading a flag changes nothing but the count of readings.
    obtain ⟨told, left⟩ := @ih { resolver with reads := resolver.reads + 1 } flagged
    rw [answers_cons, asked_cons, reading, told, left, List.mapIdx_cons]
    simp [Nat.add_assoc, Nat.add_comm 1]

theorem forcedSync_of_content {resolver : Resolver}
    (content : resolver.capability = .contentBased) : resolver.forcedSync = false := by
  cases forced : resolver.forcedSync with
  | false => rfl
  | true => simp [capability, forced] at content

/-- What content says of a packet, and whether it shows that content is not reliable. -/
theorem isAsync_of_content {resolver : Resolver} (content : resolver.capability = .contentBased)
    (event : Event) :
    (resolver.isAsync event).answer = .ok (decide event.IsPlainChat) ∧
      (resolver.isAsync event).resolver =
        { resolver with forcedSync := decide event.IsUnreadableChat } := by
  have kept : { resolver with forcedSync := false } = resolver := by
    rw [← forcedSync_of_content content]
  simp only [isAsync, content]
  unfold readContent
  by_cases chat : event.type = .clientChat
  · cases read : event.packet.readString 0 with
    | none =>
      have empty : event.packet.strings = [] := by simpa [Packet.readString] using read
      have unreadable : event.IsUnreadableChat := ⟨chat, empty⟩
      have silent : ¬event.IsPlainChat := by
        rintro ⟨_, content, first, _⟩
        simp [empty] at first
      simp [chat, unreadable, silent]
    | some text =>
      have first : event.packet.strings.head? = some text := by
        rw [← read, Packet.readString, List.head?_eq_getElem?]
      have readable : ¬event.IsUnreadableChat := by
        rintro ⟨_, empty⟩
        simp [empty] at first
      have plain : decide event.IsPlainChat = (text.toList.head? != some '/') := by
        rw [Bool.eq_iff_iff]
        simp [Event.IsPlainChat, chat, first]
      simp [chat, readable, plain, kept]
  · have readable : ¬event.IsUnreadableChat := fun unreadable => chat unreadable.1
    have silent : ¬event.IsPlainChat := fun plain => chat plain.1
    simp [chat, readable, silent, kept]

/-- Where content decides, it does so until the first chat that cannot be read. -/
theorem answers_of_content {resolver : Resolver} (content : resolver.capability = .contentBased)
    (queries : List Query) :
    resolver.answers queries = queries.mapIdx (fun k query => .ok (decide
        (query.event.IsPlainChat ∧
          ∀ earlier ∈ queries.take k, ¬earlier.event.IsUnreadableChat))) ∧
      resolver.asked queries = { resolver with
        forcedSync := decide (∃ query ∈ queries, query.event.IsUnreadableChat) } := by
  induction queries generalizing resolver with
  | nil =>
    refine ⟨rfl, ?_⟩
    simp [asked, ← forcedSync_of_content content]
  | cons query rest ih =>
    obtain ⟨answer, next⟩ := isAsync_of_content content query.event
    rw [answers_cons, asked_cons, answer, next, Manner.tell_ok, List.mapIdx_cons]
    by_cases unreadable : query.event.IsUnreadableChat
    · -- From here on the resolver is synchronous, whatever comes.
      obtain ⟨told, left⟩ := @answers_of_sync
        { resolver with forcedSync := decide query.event.IsUnreadableChat }
        (by simp [capability, unreadable]) rest
      have silent : rest.map (fun _ => .ok false) =
          rest.mapIdx fun _ _ => (.ok false : Except FlagFailure Bool) := by
        apply List.ext_getElem?
        intro k
        rw [List.getElem?_map, List.getElem?_mapIdx]
      rw [told, left, silent]
      simp [unreadable]
    · have same : { resolver with forcedSync := decide query.event.IsUnreadableChat } =
          resolver := by
        rw [decide_eq_false unreadable, ← forcedSync_of_content content]
      obtain ⟨told, left⟩ := ih content
      rw [same, told, left]
      simp [unreadable]

/-- Queries never ask the probe again what it can find. -/
theorem discoveries_asked (resolver : Resolver) (queries : List Query) :
    (resolver.asked queries).discoveries = resolver.discoveries := by
  cases capable : resolver.capability with
  | packetFlag => rw [(answers_of_flag capable queries).2]
  | contentBased => rw [(answers_of_content capable queries).2]
  | alwaysSync => rw [(answers_of_sync capable queries).2]

theorem resolve_fst (probe : Probe) (version : Version) : (resolve probe version).1 =
    { probe := probe, decided := .decide probe.discovery version, discoveries := 1 } := by
  unfold resolve
  repeat' split
  all_goals rfl

end Resolver

/-- What a probe found and a release settle of all queries that are made of one resolver. -/
structure Foretold (probe : Probe) (version : Version) (queries : List Query) : Prop where
  /-- Each query reads the flag of its packet, whatever came before. -/
  flagged : probe.discovery = .named ∨ probe.discovery = .accessors 2 →
    let resolver := (Resolver.resolve probe version).1
    resolver.answers queries = queries.mapIdx (fun k query =>
        query.manner.tell (probe.flag k query.event.packet)) ∧
      (resolver.asked queries).reads = queries.length ∧
      (resolver.asked queries).capability = .packetFlag
  silent : ∀ count, probe.discovery = .accessors count →
    count = 1 ∨ count ≠ 2 ∧ version.Precedes .bountifulUpdate →
    let resolver := (Resolver.resolve probe version).1
    resolver.answers queries = queries.map (fun _ => .ok false) ∧
      (resolver.asked queries).reads = 0 ∧
      (resolver.asked queries).capability = .alwaysSync
  /-- Plain chat is asynchronous before the first chat that cannot be read, and nothing else is. -/
  content : ∀ count, probe.discovery = .accessors count → count ≠ 1 → count ≠ 2 →
    ¬version.Precedes .bountifulUpdate →
    let resolver := (Resolver.resolve probe version).1
    resolver.answers queries = queries.mapIdx (fun k query => .ok (decide
        (query.event.IsPlainChat ∧
          ∀ earlier ∈ queries.take k, ¬earlier.event.IsUnreadableChat))) ∧
      (resolver.asked queries).reads = 0 ∧
      (resolver.asked queries).capability =
        if ∃ query ∈ queries, query.event.IsUnreadableChat then .alwaysSync else .contentBased
  once : ((Resolver.resolve probe version).1.asked queries).discoveries = 1
  /-- Asked in another manner, the resolver answers the same and is left the same. -/
  manners :
    let resolver := (Resolver.resolve probe version).1
    resolver.answers queries = List.zipWith (fun query answer => query.manner.tell answer) queries
        (resolver.answers (queries.map Query.plainly)) ∧
      resolver.asked queries = resolver.asked (queries.map Query.plainly)

/-- All answers follow from what was found at the start and from the packets asked about so far. -/
theorem foretold (probe : Probe) (version : Version) (queries : List Query) :
    Foretold probe version queries where
  flagged found := by
    have capable := Capability.decide_of_flag version found
    rw [Resolver.resolve_fst, capable]
    obtain ⟨told, left⟩ := @Resolver.answers_of_flag
      { probe := probe, decided := .packetFlag, discoveries := 1 } rfl queries
    dsimp only
    rw [left]
    exact ⟨by simpa using told, by simp, rfl⟩
  silent count found silent := by
    have capable := Capability.decide_of_silent silent
    rw [Resolver.resolve_fst, found, capable]
    obtain ⟨told, left⟩ := @Resolver.answers_of_sync
      { probe := probe, decided := .alwaysSync, discoveries := 1 } rfl queries
    dsimp only
    rw [left]
    exact ⟨told, rfl, rfl⟩
  content count found one two late := by
    have capable := Capability.decide_of_content one two late
    rw [Resolver.resolve_fst, found, capable]
    obtain ⟨told, left⟩ := @Resolver.answers_of_content
      { probe := probe, decided := .contentBased, discoveries := 1 } rfl queries
    dsimp only
    rw [left]
    refine ⟨told, rfl, ?_⟩
    simp [Resolver.capability]
  once := by
    rw [Resolver.discoveries_asked, Resolver.resolve_fst]
  manners := Resolver.answers_plainly _ queries

/-- Plain chat, a command, chat without content, and plain chat again. -/
example :
    let chat (strings : List String) : Query :=
      ⟨.plain, { id := 0, player := 7, packet := { type := .clientChat, strings := strings } }⟩
    let probe : Probe := ⟨.accessors 3, fun _ _ => .ok true⟩
    (Resolver.resolve probe .bountifulUpdate).1.answers
        [chat ["hello"], chat ["/home"], chat [], chat ["hello"]] =
      [.ok true, .ok false, .ok false, .ok false] := by
  cbv

end PacketFlow
