import PacketFlow.Admission.Defaults
import PacketFlow.Proofs.Fields
import PacketFlow.Snapshot.Json

/-! What snapshots and defaults are read from.

Each of the two records has a table of its own, and its reader follows that table. A span is not a
record of this kind, because its seconds and nanoseconds together make up one length: it is spelled
by its two parts, in either order or as an array, and the parts need not be those that it has.
-/

set_option autoImplicit false

namespace PacketFlow

namespace Json

/-- A reader takes the values that an encoder writes, and no others. -/
def Undoes {β : Type} (read? : Json → Option β) (encode : β → Json) : Prop :=
  ∀ value result, read? value = some result ↔ value = encode result

theorem Undoes.of_left {β : Type} {read? : Json → Option β} {encode : β → Json}
    (sound : ∀ value result, read? value = some result → value = encode result)
    (inverse : ∀ result, read? (encode result) = some result) : Undoes read? encode :=
  fun value result => ⟨sound value result, fun same => same ▸ inverse result⟩

theorem Undoes.injective {β : Type} {read? : Json → Option β} {encode : β → Json}
    (undoes : Undoes read? encode) : Function.Injective encode := by
  intro a b same
  have read := (undoes _ a).mpr same.symm
  exact (Option.some.inj (read.symm.trans ((undoes _ b).mpr rfl)))

theorem Undoes.taking {β : Type} {read? : Json → Option β} {encode : β → Json}
    (undoes : Undoes read? encode) (value : Json) (result : β) :
    taking read? value = .ok result ↔ value = encode result := by
  rw [← undoes, Json.taking]
  cases read? value <;> simp

theorem eq_integer_of_natBelow? {value : Json} {bound n : Nat}
    (read : value.natBelow? bound = some n) : value = .integer n ∧ n < bound := by
  unfold natBelow? at read
  split at read
  next =>
    split at read
    next small =>
      cases read
      exact ⟨rfl, small⟩
    next => cases read
  next => cases read

theorem undoes_uint32 : Undoes uint32? ofUInt32 := by
  refine .of_left (fun value word success => ?_) uint32?_ofUInt32
  obtain ⟨n, read, rfl⟩ := Option.map_eq_some_iff.mp success
  obtain ⟨rfl, small⟩ := eq_integer_of_natBelow? read
  rw [ofUInt32, UInt32.toNat_ofNat', Nat.mod_eq_of_lt small]

theorem undoes_uint64 : Undoes uint64? ofUInt64 := by
  refine .of_left (fun value word success => ?_) uint64?_ofUInt64
  obtain ⟨n, read, rfl⟩ := Option.map_eq_some_iff.mp success
  obtain ⟨rfl, small⟩ := eq_integer_of_natBelow? read
  rw [ofUInt64, UInt64.toNat_ofNat', Nat.mod_eq_of_lt small]

theorem undoes_int32 : Undoes int32? ofInt32 := by
  refine .of_left (fun value number success => ?_) int32?_ofInt32
  unfold int32? at success
  split at success
  next =>
    split at success
    next range =>
      cases success
      rw [ofInt32, Int32.toInt_ofInt_of_le range.1 (by omega)]
    next => cases success
  next => cases success

theorem undoes_bool : Undoes bool? .bool := by
  intro value flag
  cases value with
  | bool value => simp [bool?]
  | _ => simp [bool?]

end Json

open Json

namespace Snapshot

theorem undoes_index : Undoes index? (.ofOption .ofUInt64) := by
  refine .of_left (fun value index success => ?_) index?_ofOption
  unfold index? at success
  split at success
  next =>
    cases success
    rfl
  next =>
    obtain ⟨word, read, rfl⟩ := Option.map_eq_some_iff.mp success
    exact (undoes_uint64 _ word).mp read

/-- The fields of a snapshot. Only the two times and the two indices have no default. -/
def table : Table Snapshot := [
  .coded "version" version .ofUInt32 undoes_uint32.injective (some currentVersion),
  .coded "initial_time" initialTime .ofUInt64 undoes_uint64.injective none,
  .coded "timeout" timeout .ofUInt64 undoes_uint64.injective none,
  .coded "original_sending_index" admittedIndex .ofUInt64 undoes_uint64.injective none,
  .coded "new_sending_index" newIndex .ofUInt64 undoes_uint64.injective none,
  .coded "queued_sending_index" queuedIndex (.ofOption .ofUInt64) undoes_index.injective
    (some none),
  .coded "processed" processed .bool undoes_bool.injective (some false),
  .coded "transmitted" transmitted .bool undoes_bool.injective (some false),
  .coded "async_cancelled" asyncCancelled .bool undoes_bool.injective (some false),
  .coded "processing_delay" delay .ofInt32 undoes_int32.injective (some 0)]

theorem complete_table : table.Complete := by
  intro holds each
  simp only [table, List.forall_mem_cons] at each
  obtain ⟨⟨version, h₁⟩, ⟨initialTime, h₂⟩, ⟨timeout, h₃⟩, ⟨admittedIndex, h₄⟩, ⟨newIndex, h₅⟩,
    ⟨queuedIndex, h₆⟩, ⟨processed, h₇⟩, ⟨transmitted, h₈⟩, ⟨asyncCancelled, h₉⟩, ⟨delay, h₁₀⟩, -⟩ :=
    each
  refine ⟨⟨version, initialTime, timeout, admittedIndex, newIndex, queuedIndex, processed,
    transmitted, asyncCancelled, delay⟩, ?_⟩
  simp only [table, List.forall_mem_cons]
  exact ⟨h₁, h₂, h₃, h₄, h₅, h₆, h₇, h₈, h₉, h₁₀, nofun⟩

theorem follows_table : Follows table layout ofFields where
  names := rfl
  distinct := by decide
  lenient := rfl
  complete := complete_table
  builds absent fields result distinct := by
    simp only [table, List.forall_mem_cons]
    simp only [ofFields, bind_eq_ok_iff,
      Fields.required_eq_ok_iff distinct undoes_uint64.taking,
      Fields.optional_eq_ok_iff distinct undoes_uint32.taking,
      Fields.optional_eq_ok_iff distinct undoes_index.taking,
      Fields.optional_eq_ok_iff distinct undoes_bool.taking,
      Fields.optional_eq_ok_iff distinct undoes_int32.taking]
    constructor
    · rintro ⟨_, version, _, initial, _, timeout, _, admitted, _, new, _, queued, _, processed, _,
        transmitted, _, cancelled, _, delay, ⟨⟩⟩
      exact ⟨version, initial, timeout, admitted, new, queued, processed, transmitted, cancelled,
        delay, nofun⟩
    · rintro ⟨version, initial, timeout, admitted, new, queued, processed, transmitted, cancelled,
        delay, -⟩
      exact ⟨_, version, _, initial, _, timeout, _, admitted, _, new, _, queued, _, processed, _,
        transmitted, _, cancelled, _, delay, rfl⟩

end Snapshot

namespace Duration

/-- Seconds and any number of nanoseconds are together as long as a span. -/
def MadeOf (span : Duration) (secs : UInt64) (nanos : UInt32) : Prop :=
  span.nanoseconds = secs.toNat * 1000000000 + nanos.toNat

/-- The ways to spell a span: by parts that it is made of, named or in their order. -/
inductive Spelled : Json → Duration → Prop where
  | object {members : Fields} {secs : UInt64} {nanos : UInt32} {span : Duration}
    (written : members.Perm [("secs", .ofUInt64 secs), ("nanos", .ofUInt32 nanos)])
    (made : span.MadeOf secs nanos) : Spelled (.record members) span
  | array {secs : UInt64} {nanos : UInt32} {span : Duration} (made : span.MadeOf secs nanos) :
    Spelled (.array [.ofUInt64 secs, .ofUInt32 nanos]) span

/-- A span is determined by its length. -/
theorem nanoseconds_injective : Function.Injective nanoseconds := by
  intro a b same
  have small := a.nanos_lt
  have small' := b.nanos_lt
  simp only [nanoseconds] at same
  have secs : a.secs = b.secs := UInt64.toNat_inj.mp (by omega)
  have nanos : a.nanos = b.nanos := UInt32.toNat_inj.mp (by omega)
  cases a
  cases b
  cases secs
  cases nanos
  rfl

/-- Carrying full seconds does not change the length. -/
theorem madeOf_ofParts? {secs : UInt64} {nanos : UInt32} {span : Duration}
    (built : ofParts? secs nanos = some span) : span.MadeOf secs nanos := by
  have bound := nanos.toNat_lt
  simp only [ofParts?] at built
  split at built
  next fits =>
    cases built
    simp only [MadeOf, nanoseconds, UInt64.toNat_ofNat', UInt32.toNat_ofNat']
    rw [Nat.mod_eq_of_lt fits, Nat.mod_eq_of_lt (by omega)]
    omega
  next => cases built

theorem ofParts?_eq_some_iff {secs : UInt64} {nanos : UInt32} {span : Duration} :
    ofParts? secs nanos = some span ↔ span.MadeOf secs nanos := by
  refine ⟨madeOf_ofParts?, fun made => ?_⟩
  cases built : ofParts? secs nanos with
  | some other =>
    rw [nanoseconds_injective (made.trans (madeOf_ofParts? built).symm)]
  | none =>
    -- The seconds of the span are those that were carried to.
    have fits : secs.toNat + nanos.toNat / 1000000000 < UInt64.size := by
      have bound := span.secs.toNat_lt_size
      have small := span.nanos_lt
      rw [MadeOf, nanoseconds] at made
      omega
    rw [ofParts?, if_pos fits] at built
    cases built

theorem ofFields_eq_ok_iff {absent : String → DecodeError} {fields : Fields} {span : Duration}
    (distinct : (fields.map Prod.fst).Nodup) :
    ofFields absent fields = .ok span ↔ ∃ secs nanos,
      ("secs", .ofUInt64 secs) ∈ fields ∧ ("nanos", .ofUInt32 nanos) ∈ fields ∧
        span.MadeOf secs nanos := by
  simp only [ofFields, bind_eq_ok_iff, Fields.required_eq_ok_iff distinct undoes_uint64.taking,
    Fields.required_eq_ok_iff distinct undoes_uint32.taking, Fields.value_required_iff]
  constructor
  · rintro ⟨secs, first, nanos, second, success⟩
    refine ⟨secs, nanos, first, second, ?_⟩
    split at success
    next built =>
      cases success
      exact madeOf_ofParts? built
    next => cases success
  · rintro ⟨secs, nanos, first, second, made⟩
    refine ⟨secs, first, nanos, second, ?_⟩
    rw [ofParts?_eq_some_iff.mpr made]

/-- Members that repeat no part, add nothing and have both are the two parts in either order. -/
theorem perm_parts_iff {members : Fields} {first second : Json} :
    members.Perm [("secs", first), ("nanos", second)] ↔
      Once layout.names members ∧ (∀ member ∈ members, member.1 ∈ layout.names) ∧
        ("secs", first) ∈ members ∧ ("nanos", second) ∈ members := by
  constructor
  · intro written
    have names : (members.map Prod.fst).Perm layout.names := written.map Prod.fst
    refine ⟨fun name _ => ?_, fun member inside => ?_, ?_, ?_⟩
    · have different : layout.names.Nodup := by decide
      exact names.count_eq name ▸ List.nodup_iff_count_le_one.mp different name
    · exact names.subset (List.mem_map_of_mem inside)
    · exact written.mem_iff.mpr List.mem_cons_self
    · exact written.mem_iff.mpr (List.mem_cons_of_mem _ List.mem_cons_self)
  · rintro ⟨once, known, secs, nanos⟩
    have distinct : members.Nodup :=
      (Layout.known_eq_self known ▸ Layout.once_iff.mp once).of_map
    refine (List.perm_ext_iff_of_nodup distinct (by simp)).mpr fun ⟨name, value⟩ => ?_
    constructor
    · intro member
      have named := known _ member
      rcases List.mem_cons.mp named with rfl | last
      · rw [once.unique named member secs]
        exact List.mem_cons_self
      · cases List.mem_singleton.mp last
        rw [once.unique named member nanos]
        exact List.mem_cons_of_mem _ List.mem_cons_self
    · intro member
      rcases List.mem_cons.mp member with first | last
      · cases first
        exact secs
      · cases List.mem_singleton.mp last
        exact nanos

theorem ofJson_record_iff {members : Fields} {span : Duration} :
    ofJson (.record members) = .ok span ↔ ∃ secs nanos,
      members.Perm [("secs", .ofUInt64 secs), ("nanos", .ofUInt32 nanos)] ∧
        span.MadeOf secs nanos := by
  simp only [ofJson, Layout.read_record_iff, perm_parts_iff]
  constructor
  · rintro ⟨once, known, success⟩
    have known := known rfl
    have distinct := Layout.once_iff_reverse.mp once
    rw [Layout.known_eq_self known] at distinct success
    obtain ⟨secs, nanos, first, second, made⟩ := (ofFields_eq_ok_iff distinct).mp success
    exact ⟨secs, nanos, ⟨once, known, List.mem_reverse.mp first, List.mem_reverse.mp second⟩, made⟩
  · rintro ⟨secs, nanos, ⟨once, known, first, second⟩, made⟩
    have distinct := Layout.once_iff_reverse.mp once
    rw [Layout.known_eq_self known] at distinct ⊢
    exact ⟨once, fun _ => known, (ofFields_eq_ok_iff distinct).mpr
      ⟨secs, nanos, List.mem_reverse.mpr first, List.mem_reverse.mpr second, made⟩⟩

theorem ofJson_array_iff {items : List Json} {span : Duration} :
    ofJson (.array items) = .ok span ↔ ∃ secs nanos,
      items = [.ofUInt64 secs, .ofUInt32 nanos] ∧ span.MadeOf secs nanos := by
  have read {items : List Json} (fits : items.length ≤ 2) :
      ofJson (.array items) = .ok span ↔ ∃ secs nanos,
        ("secs", .ofUInt64 secs) ∈ layout.names.zip items ∧
          ("nanos", .ofUInt32 nanos) ∈ layout.names.zip items ∧ span.MadeOf secs nanos := by
    have distinct : layout.names.Nodup := by decide
    rw [ofJson, Layout.read, if_pos (by exact fits),
      ofFields_eq_ok_iff (nodup_fst_zip distinct fits)]
  rcases items with _ | ⟨first, _ | ⟨second, _ | ⟨third, rest⟩⟩⟩
  · rw [read (by simp)]
    simp [layout]
  · rw [read (by simp)]
    simp [layout]
  · rw [read (by simp)]
    simp [layout, eq_comm, and_assoc]
  · simp [ofJson, Layout.read, layout]

theorem ofJson_eq_ok_iff {value : Json} {span : Duration} :
    ofJson value = .ok span ↔ Spelled value span := by
  constructor
  · intro success
    obtain ⟨members, rfl⟩ | ⟨items, rfl⟩ := Layout.read_eq_ok success
    · obtain ⟨secs, nanos, written, made⟩ := ofJson_record_iff.mp success
      exact .object written made
    · obtain ⟨secs, nanos, rfl, made⟩ := ofJson_array_iff.mp success
      exact .array made
  · rintro (⟨written, made⟩ | made)
    · exact ofJson_record_iff.mpr ⟨_, _, written, made⟩
    · exact ofJson_array_iff.mpr ⟨_, _, rfl, made⟩

theorem spelled_functional {value : Json} {a b : Duration} (first : Spelled value a)
    (second : Spelled value b) : a = b := by
  have read := ofJson_eq_ok_iff.mpr first
  rw [ofJson_eq_ok_iff.mpr second] at read
  exact (Except.ok.inj read).symm

end Duration

namespace Defaults

/-- The fields of the defaults. Both may be left out, for thirty minutes and no index skipped. -/
def table : Table Defaults := [
  { name := "timeout_delta"
    get := timeoutDelta
    Takes := Duration.Spelled
    functional := Duration.spelled_functional
    default := some (.ofMillis 1800000) },
  .coded "sending_delta" sendingDelta .ofUInt64 undoes_uint64.injective (some 0)]

theorem complete_table : table.Complete := by
  intro holds each
  simp only [table, List.forall_mem_cons] at each
  obtain ⟨⟨timeoutDelta, timeout⟩, ⟨sendingDelta, sending⟩, -⟩ := each
  refine ⟨⟨timeoutDelta, sendingDelta⟩, ?_⟩
  simp only [table, List.forall_mem_cons]
  exact ⟨timeout, sending, nofun⟩

theorem follows_table : Follows table layout ofFields where
  names := rfl
  distinct := by decide
  lenient := rfl
  complete := complete_table
  builds absent fields result distinct := by
    simp only [table, List.forall_mem_cons]
    simp only [ofFields, bind_eq_ok_iff,
      Fields.optional_eq_ok_iff distinct fun _ _ => Duration.ofJson_eq_ok_iff,
      Fields.optional_eq_ok_iff distinct undoes_uint64.taking]
    constructor
    · rintro ⟨_, timeout, _, sending, ⟨⟩⟩
      exact ⟨timeout, sending, nofun⟩
    · rintro ⟨timeout, sending, -⟩
      exact ⟨_, timeout, _, sending, rfl⟩

end Defaults

/-- Snapshots and defaults are read from their fields, each by its own table. -/
theorem fieldwise : Fieldwise Snapshot.table Snapshot.ofJson Snapshot.ofText ∧
    Fieldwise Defaults.table Defaults.ofJson Defaults.ofText :=
  ⟨Snapshot.follows_table.reads_fieldwise, Defaults.follows_table.reads_fieldwise⟩

example : Defaults.ofJson (.array [.array [.ofUInt64 1799, .ofUInt32 1000000000]]) =
    .ok Defaults.standard := by rfl

end PacketFlow
