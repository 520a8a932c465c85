import PacketFlow.Admission
import PacketFlow.Proofs.Progress

/-! When packets expire.

A span is cut to whole milliseconds and to the range of words, and the deadline to that range once
more. Times are words themselves, so no time lies behind the largest word, and a deadline that was
cut is missed by none: a packet is late exactly when its deadline in unbounded numbers has passed.
-/

set_option autoImplicit false

namespace PacketFlow

/-- The last millisecond in which a packet is in time, as an unbounded number. -/
def exactDeadline (time : UInt64) (span : Duration) : Nat :=
  time.toNat + span.nanoseconds / 1000000

theorem exactDeadline_mono {time : UInt64} {shorter longer : Duration}
    (within : shorter.nanoseconds ≤ longer.nanoseconds) :
    exactDeadline time shorter ≤ exactDeadline time longer :=
  Nat.add_le_add_left (Nat.div_le_div_right within) _

namespace Marker

/-- A marker made for a packet that comes in at a time and may take so long. -/
inductive Timed (time : UInt64) (span : Duration) : Marker → Prop where
  | fresh (stream : StreamId) (index : UInt64) : Timed time span (.fresh stream index time span)
  | built {draft : Draft} {now : UInt64} {marker : Marker} (timed : draft.time = some time)
    (limited : draft.timeoutDelta = some span) (built : draft.build now = .ok marker) :
    Timed time span marker
  | issued (admission : Admission) (delta : UInt64) :
    Timed time span (admission.issueAt delta span time).1

theorem Timed.timeout_eq {time : UInt64} {span : Duration} {marker : Marker}
    (timed : Timed time span marker) : marker.timeout = satAdd time span.millis := by
  cases timed with
  | fresh | issued => rfl
  | @built draft now _ timed limited built =>
    cases streamed : draft.stream with
    | none => simp [Draft.build, streamed] at built
    | some stream =>
      simp only [Draft.build, streamed, timed, limited] at built
      cases built
      rfl

/-- The deadline that a marker holds is cut off once, whatever was cut off on the way. -/
theorem toNat_deadline (time : UInt64) (span : Duration) :
    (satAdd time span.millis).toNat = min (exactDeadline time span) 18446744073709551615 := by
  rw [toNat_satAdd, Duration.toNat_millis, Duration.exactMillis_eq, exactDeadline]
  omega

theorem isExpiredAt_iff {time : UInt64} {span : Duration} {record : Marker}
    (kept : record.timeout = satAdd time span.millis) (now : UInt64) :
    record.isExpiredAt now = true ↔ exactDeadline time span < now.toNat := by
  have bound := now.toNat_lt
  rw [isExpiredAt, decide_eq_true_iff, UInt64.lt_iff_toNat_lt, kept, toNat_deadline]
  omega

theorem enduring_timeout : Enduring timeout :=
  ⟨⟨fun _ _ => rfl, fun _ => rfl⟩, fun _ _ => rfl, fun _ => rfl⟩

theorem timeout_apply (record : Marker) {change : Change}
    (other : ∀ value, change ≠ .timeout value) :
    (record.apply change).timeout = record.timeout := by
  cases change with
  | timeout value => exact absurd rfl (other value)
  | _ => rfl

end Marker

open Marker Pipeline

/-- When a packet that came in at a time and may take so long counts as late. -/
structure Expires (time : UInt64) (span : Duration) (record : Marker) : Prop where
  /-- Nothing that was cut off can be told. -/
  deadline : ∀ now, record.isExpiredAt now = true ↔ exactDeadline time span < now.toNat
  /-- A packet that is late stays late. -/
  lasting : ∀ early late, early ≤ late → record.isExpiredAt early = true →
    record.isExpiredAt late = true
  /-- A packet that may take no longer is late no later. -/
  sooner : ∀ (shorter : Duration) (other : Marker), Timed time shorter other →
    shorter.nanoseconds ≤ span.nanoseconds →
      ∀ now, record.isExpiredAt now = true → other.isExpiredAt now = true
  /-- Nothing is late for a deadline that no time lies behind. -/
  never : 18446744073709551615 ≤ exactDeadline time span → ∀ now, record.isExpiredAt now = false

/-- A marker expires by its exact deadline, whatever is done with it besides setting another one. -/
theorem expires_exactly {time : UInt64} {span : Duration} {marker : Marker}
    (timed : Timed time span marker) {before later : List Turn} {taking : Turn} {p : Pipeline}
    (run : Run {} (before ++ taking :: later) p) (taken : taking.action = .register marker)
    (kept : ∀ turn ∈ later, ∀ value,
      turn.action ≠ .revise taking.state.markers.count (.timeout value)) :
    Expires time span (p.markers.get taking.state.markers.count) := by
  have unmoved : (p.markers.get taking.state.markers.count).timeout = marker.timeout :=
    run.read_registered enduring_timeout taken fun turn member change revised record =>
      record.timeout_apply fun value same => kept turn member value (same ▸ revised)
  have passed := isExpiredAt_iff (unmoved.trans timed.timeout_eq)
  constructor
  case deadline => exact passed
  case lasting =>
    intro early late before expired
    rw [passed] at expired ⊢
    exact Nat.lt_of_lt_of_le expired (UInt64.le_iff_toNat_le.mp before)
  case sooner =>
    intro shorter other made within now expired
    rw [passed] at expired
    rw [isExpiredAt_iff made.timeout_eq]
    exact Nat.lt_of_le_of_lt (exactDeadline_mono within) expired
  case never =>
    intro beyond now
    have bound := now.toNat_lt
    rw [← Bool.not_eq_true, passed]
    omega

/-- Four milliseconds and nearly a fifth one. -/
def briefly : Duration := { secs := 0, nanos := 4999999 }

/-- A packet whose deadline is the last time but one. -/
def hurried : Draft where
  stream := some 0
  index := 7
  time := some 18446744073709551610
  timeoutDelta := some briefly

def unhurried : List Action := [.register (.fresh 0 1 0 .zero)]

def comesIn : Turn := ⟨after {} unhurried, .register (.fresh 0 7 18446744073709551610 briefly)⟩

/-- The other packet gets another deadline. The hurried one is queued, completed while it is
deferred, and looked for when it is in time for the last time and when it is late. -/
def untilTheEnd : List Action :=
  [.enqueue 0 (.chat 0 1), .revise 0 (.timeout 3), .revise 1 .defer,
    .complete 0 ⟨0, 1⟩ 18446744073709551614, .evict 0 18446744073709551614,
    .trySend 0 18446744073709551615]

theorem expires_exactly_hurried : ∃ marker last,
    Timed 18446744073709551610 briefly marker ∧
      Run {} (turns {} unhurried ++ comesIn :: comesIn.step.state.turns untilTheEnd) last ∧
      comesIn.action = .register marker ∧
      (∀ turn ∈ comesIn.step.state.turns untilTheEnd, ∀ value,
        turn.action ≠ .revise comesIn.state.markers.count (.timeout value)) ∧
      Expires 18446744073709551610 briefly (last.markers.get comesIn.state.markers.count) ∧
      (last.markers.get 1).isExpiredAt 18446744073709551614 = false ∧
      (last.markers.get 1).isExpiredAt 18446744073709551615 = true := by
  have timed : Timed 18446744073709551610 briefly (.fresh 0 7 18446744073709551610 briefly) :=
    @Timed.built _ _ hurried 0 _ rfl rfl rfl
  have run := ((Run.ofActions {} unhurried).perform comesIn.action).append_turns untilTheEnd
  rw [List.append_assoc] at run
  have kept : ∀ turn ∈ comesIn.step.state.turns untilTheEnd, ∀ value,
      turn.action ≠ .revise comesIn.state.markers.count (.timeout value) := by
    have second : comesIn.state.markers.count = 1 := rfl
    simp [second, untilTheEnd, turns]
  exact ⟨_, _, timed, run, rfl, kept, expires_exactly timed run rfl kept, by decide, by decide⟩

end PacketFlow
