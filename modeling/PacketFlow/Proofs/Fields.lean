import Mathlib.Data.List.Nodup
import PacketFlow.Proofs.RoundTrip

/-! Records by their tables.

A table lays down a record: the names of the fields in their order, the values each of them takes,
and what it holds where it is left out. What an object denotes is said from the table alone, by
which members there are, and without regard to their order. Readers that follow a table read
exactly that, from objects and from arrays.
-/

set_option autoImplicit false

namespace PacketFlow.Json

/-- Each of these names is borne by one member at most. -/
def Once (names : List String) (members : Fields) : Prop :=
  ∀ name ∈ names, (members.map Prod.fst).count name ≤ 1

theorem bind_eq_ok_iff {α β : Type} {first : Except DecodeError α}
    {next : α → Except DecodeError β} {result : β} :
    first >>= next = .ok result ↔ ∃ between, first = .ok between ∧ next between = .ok result := by
  cases first with
  | error error => exact ⟨nofun, nofun⟩
  | ok between => exact ⟨fun success => ⟨between, rfl, success⟩, fun ⟨_, rfl, success⟩ => success⟩

theorem toOption_eq {α : Type} {first second : Except DecodeError α}
    (same : ∀ result, first = .ok result ↔ second = .ok result) :
    first.toOption = second.toOption := by
  cases first with
  | error =>
    cases second with
    | error => rfl
    | ok result => cases (same result).mpr rfl
  | ok result => rw [(same result).mp rfl]

namespace Fields

variable {β : Type} {members others : Fields} {name : String} {Takes : Json → β → Prop}
  {default : Option β} {b : β}

/-- What a field holds: what the member of its name stands for, or the default without one. -/
inductive Value (members : Fields) (name : String) (Takes : Json → β → Prop) (default : Option β)
    (b : β) : Prop where
  | given {value : Json} (member : (name, value) ∈ members) (takes : Takes value b)
  | absent (unnamed : ∀ value, (name, value) ∉ members) (declared : default = some b)

theorem Value.transfer (same : ∀ value, (name, value) ∈ members ↔ (name, value) ∈ others)
    (holds : members.Value name Takes default b) : others.Value name Takes default b := by
  cases holds with
  | given member takes => exact .given ((same _).mp member) takes
  | absent unnamed declared =>
    exact .absent (fun value member => unnamed value ((same value).mpr member)) declared

theorem value_congr (same : ∀ value, (name, value) ∈ members ↔ (name, value) ∈ others) :
    members.Value name Takes default b ↔ others.Value name Takes default b :=
  ⟨.transfer same, .transfer fun value => (same value).symm⟩

/-- A field without a default that takes what it is written as has to be written. -/
theorem value_required_iff {encode : β → Json} :
    members.Value name (fun value result => value = encode result) none b ↔
      (name, encode b) ∈ members := by
  refine ⟨?_, fun member => .given member rfl⟩
  rintro (⟨member, rfl⟩ | ⟨_, ⟨⟩⟩)
  exact member

theorem lookup_eq_some_iff (distinct : (members.map Prod.fst).Nodup) {value : Json} :
    members.lookup name = some value ↔ (name, value) ∈ members := by
  rw [List.lookup_eq_some_iff]
  constructor
  · rintro ⟨before, after, rfl, -⟩
    simp
  · intro member
    obtain ⟨before, after, rfl⟩ := List.append_of_mem member
    refine ⟨before, after, rfl, fun other earlier => ?_⟩
    rw [List.map_append, List.map_cons, List.nodup_append] at distinct
    have apart := distinct.2.2 _ (List.mem_map_of_mem earlier) _ List.mem_cons_self
    simpa using Ne.symm apart

theorem lookup_eq_none_iff : members.lookup name = none ↔ ∀ value, (name, value) ∉ members := by
  rw [List.lookup_eq_none_iff]
  constructor
  · intro apart value member
    simpa using apart _ member
  · rintro unnamed ⟨other, value⟩ member
    rw [bne_iff_ne]
    rintro rfl
    exact unnamed value member

theorem value_iff_of_found (distinct : (members.map Prod.fst).Nodup) {value : Json}
    (found : members.lookup name = some value) :
    members.Value name Takes default b ↔ Takes value b := by
  refine ⟨?_, .given ((lookup_eq_some_iff distinct).mp found)⟩
  rintro (⟨member, takes⟩ | ⟨unnamed, _⟩)
  · rw [(lookup_eq_some_iff distinct).mpr member] at found
    cases found
    exact takes
  · exact absurd ((lookup_eq_some_iff distinct).mp found) (unnamed value)

theorem value_iff_of_missing (missing : members.lookup name = none) :
    members.Value name Takes default b ↔ default = some b := by
  have unnamed := lookup_eq_none_iff.mp missing
  refine ⟨?_, .absent unnamed⟩
  rintro (⟨member, _⟩ | ⟨_, declared⟩)
  · exact absurd member (unnamed _)
  · exact declared

theorem required_eq_ok_iff {read : Json → Except DecodeError β} {absent : String → DecodeError}
    (distinct : (members.map Prod.fst).Nodup)
    (reads : ∀ value b, read value = .ok b ↔ Takes value b) :
    members.required absent read name = .ok b ↔ members.Value name Takes none b := by
  unfold required
  split
  next value found => rw [value_iff_of_found distinct found, reads]
  next missing => simp [value_iff_of_missing missing]

theorem optional_eq_ok_iff {read : Json → Except DecodeError β} {declared : β}
    (distinct : (members.map Prod.fst).Nodup)
    (reads : ∀ value b, read value = .ok b ↔ Takes value b) :
    members.optional read name declared = .ok b ↔
      members.Value name Takes (some declared) b := by
  unfold optional
  split
  next value found => rw [value_iff_of_found distinct found, reads]
  next missing => simp [value_iff_of_missing missing]

end Fields

namespace Layout

variable {layout : Layout} {members found fields : Fields}

/-- The members that a layout knows. -/
def known (layout : Layout) (members : Fields) : Fields :=
  members.filter fun member => member.1 ∈ layout.names

theorem known_eq_self (known : ∀ member ∈ members, member.1 ∈ layout.names) :
    layout.known members = members :=
  List.filter_eq_self.mpr fun member inside => decide_eq_true (known member inside)

theorem once_iff : Once layout.names members ↔ ((layout.known members).map Prod.fst).Nodup := by
  have names : (layout.known members).map Prod.fst =
      (members.map Prod.fst).filter (· ∈ layout.names) := by
    rw [known, List.filter_map]
    rfl
  rw [names, List.nodup_iff_count_le_one]
  constructor
  · intro once name
    by_cases member : name ∈ layout.names
    · rw [List.count_filter (by simpa using member)]
      exact once name member
    · rw [List.count_eq_zero_of_not_mem (by simp [member])]
      exact Nat.zero_le 1
  · intro distinct name member
    rw [← List.count_filter (p := (· ∈ layout.names)) (by simpa using member)]
    exact distinct name

/-- Collected members stand in reverse. -/
theorem once_iff_reverse :
    Once layout.names members ↔ ((layout.known members).reverse.map Prod.fst).Nodup := by
  rw [once_iff, List.map_reverse, List.nodup_reverse]

theorem known_cons {name : String} {value : Json} (member : name ∈ layout.names) :
    layout.known ((name, value) :: members) = (name, value) :: layout.known members := by
  simp [known, member]

theorem known_cons_of_not_mem {name : String} {value : Json} (unknown : name ∉ layout.names) :
    layout.known ((name, value) :: members) = layout.known members := by
  simp [known, unknown]

/-- Members are collected unless a known name comes twice or an unknown one is refused. -/
theorem ofMembers_eq_ok_iff (distinct : (found.map Prod.fst).Nodup) :
    layout.ofMembers found (members.map fun member => (some member.1, member.2)) = .ok fields ↔
      (((layout.known members).reverse ++ found).map Prod.fst).Nodup ∧
        (layout.closed = true → ∀ member ∈ members, member.1 ∈ layout.names) ∧
        (layout.known members).reverse ++ found = fields := by
  induction members generalizing found with
  | nil => simpa [ofMembers, known] using fun _ => distinct
  | cons member members ih =>
    obtain ⟨name, value⟩ := member
    rw [List.map_cons, ofMembers]
    by_cases member : name ∈ layout.names
    · rw [if_pos member, known_cons member, List.reverse_cons, List.append_assoc]
      split
      next seen =>
        obtain ⟨earlier, found⟩ := Option.isSome_iff_exists.mp seen
        rw [Fields.lookup_eq_some_iff distinct] at found
        refine ⟨nofun, ?_⟩
        rintro ⟨apart, -, -⟩
        rw [List.map_append, List.nodup_append] at apart
        have new := (List.nodup_cons.mp apart.2.1).1
        exact absurd (List.mem_map_of_mem found) new
      next new =>
        rw [Option.not_isSome_iff_eq_none, Fields.lookup_eq_none_iff] at new
        have distinct' : (((name, value) :: found).map Prod.fst).Nodup := by
          refine List.nodup_cons.mpr ⟨fun seen => ?_, distinct⟩
          obtain ⟨⟨_, earlier⟩, inside, rfl⟩ := List.mem_map.mp seen
          exact new earlier inside
        rw [ih distinct']
        simp [member]
    · rw [if_neg member, known_cons_of_not_mem member]
      split
      next closed => simp [closed, member]
      next opened => simp [opened, ih distinct]

theorem ofMembers_nil_eq_ok_iff :
    layout.ofMembers [] (members.map fun member => (some member.1, member.2)) = .ok fields ↔
      Once layout.names members ∧
        (layout.closed = true → ∀ member ∈ members, member.1 ∈ layout.names) ∧
        (layout.known members).reverse = fields := by
  have none : (([] : Fields).map Prod.fst).Nodup := List.nodup_nil
  rw [ofMembers_eq_ok_iff none, List.append_nil, once_iff_reverse]

/-- Members that are collected have texts for names. -/
theorem exists_named {named : List Member} (success : layout.ofMembers found named = .ok fields) :
    ∃ members : Fields, Json.object named = .record members := by
  induction named generalizing found with
  | nil => exact ⟨[], rfl⟩
  | cons member named ih =>
    obtain ⟨_ | name, value⟩ := member
    · cases success
    · have later : ∃ found, layout.ofMembers found named = .ok fields := by
        rw [ofMembers] at success
        split at success
        · split at success
          · cases success
          · exact ⟨_, success⟩
        · split at success
          · cases success
          · exact ⟨_, success⟩
      obtain ⟨found, later⟩ := later
      obtain ⟨members, same⟩ := ih later
      refine ⟨(name, value) :: members, ?_⟩
      rw [record, List.map_cons, ← (Json.object.inj same)]

variable {α : Type} {build : (String → DecodeError) → Fields → Except DecodeError α} {result : α}

/-- What an object is read from: its known members, of which no two bear one name. -/
theorem read_record_iff : layout.read build (.record members) = .ok result ↔
    Once layout.names members ∧
      (layout.closed = true → ∀ member ∈ members, member.1 ∈ layout.names) ∧
      build .missing (layout.known members).reverse = .ok result := by
  rw [Json.record, read, bind_eq_ok_iff]
  simp only [ofMembers_nil_eq_ok_iff, and_assoc, exists_and_left, exists_eq_left']

/-- Where other members are ignored, nothing changes when they are taken away. -/
theorem ofMembers_known (opened : layout.closed = false) :
    layout.ofMembers found ((layout.known members).map fun member => (some member.1, member.2)) =
      layout.ofMembers found (members.map fun member => (some member.1, member.2)) := by
  induction members generalizing found with
  | nil => rfl
  | cons member members ih =>
    obtain ⟨name, value⟩ := member
    by_cases member : name ∈ layout.names
    · rw [known_cons member, List.map_cons, List.map_cons, ofMembers, ofMembers, if_pos member,
        if_pos member, ih]
    · rw [known_cons_of_not_mem member, List.map_cons, ofMembers, if_neg member, opened,
        if_neg Bool.false_ne_true, ih]

theorem read_known (opened : layout.closed = false) :
    layout.read build (.record members) = layout.read build (.record (layout.known members)) := by
  rw [Json.record, Json.record, read, read, ofMembers_known opened]

theorem read_eq_ok {value : Json} (success : layout.read build value = .ok result) :
    (∃ members, value = .record members) ∨ ∃ items, value = .array items := by
  cases value with
  | object named =>
    obtain ⟨fields, collected, -⟩ := bind_eq_ok_iff.mp success
    exact .inl (exists_named collected)
  | array items => exact .inr ⟨items, rfl⟩
  | _ => cases success

end Layout

/-- A record with all its fields is read from them. -/
theorem read_record {α : Type} {layout : Layout}
    (build : (String → DecodeError) → Fields → Except DecodeError α) {fields : Fields}
    (complete : fields.map Prod.fst = layout.names) (different : layout.names.Nodup) :
    layout.read build (.record fields) = build .missing fields.reverse := by
  have each (field) (member : field ∈ fields) : field.1 ∈ layout.names :=
    complete ▸ List.mem_map_of_mem member
  have collected : layout.ofMembers [] (fields.map fun field => (some field.1, field.2)) =
      .ok fields.reverse := by
    rw [Layout.ofMembers_nil_eq_ok_iff, Layout.once_iff, Layout.known_eq_self each, complete]
    exact ⟨different, fun _ => each, rfl⟩
  rw [record, Layout.read, collected]
  rfl

/-- The items of an array get the first names. -/
theorem fst_zip {names : List String} {items : List Json} (fits : items.length ≤ names.length) :
    (names.zip items).map Prod.fst = names.take items.length := by
  rw [List.zip_eq_zip_take_min, Nat.min_eq_right fits, List.take_length]
  exact List.map_fst_zip (List.length_take_le _ _)

theorem nodup_fst_zip {names : List String} {items : List Json} (distinct : names.Nodup)
    (fits : items.length ≤ names.length) : ((names.zip items).map Prod.fst).Nodup := by
  rw [fst_zip fits]
  exact distinct.sublist (List.take_sublist _ _)

theorem once_perm {names : List String} {members others : Fields} (moved : members.Perm others) :
    Once names members ↔ Once names others := by
  simp only [Once, (moved.map Prod.fst).count_eq]

theorem Once.of_append {names : List String} {members others : Fields}
    (once : Once names (members ++ others)) : Once names others := by
  intro name known
  have bound := once name known
  rw [List.map_append, List.count_append] at bound
  omega

theorem Once.unique {names : List String} {members : Fields} (once : Once names members)
    {name : String} (named : name ∈ names) {value other : Json} (first : (name, value) ∈ members)
    (second : (name, other) ∈ members) : value = other := by
  have distinct := (@Layout.once_iff { names } members).mp once
  have among (value) (member : (name, value) ∈ members) :
      (name, value) ∈ Layout.known { names } members :=
    List.mem_filter.mpr ⟨member, decide_eq_true named⟩
  exact congrArg Prod.snd
    (List.inj_on_of_nodup_map distinct (among value first) (among other second) rfl)

/-! Tables -/

/-- A field of a record: where the record holds it, the values it takes and what they stand for,
and what is declared for records that leave it out. -/
structure Field (α : Type) where
  {Value : Type}
  name : String
  get : α → Value
  Takes : Json → Value → Prop
  functional : ∀ {value a b}, Takes value a → Takes value b → a = b
  default : Option Value

/-- A field that takes what it is written as, and nothing else. -/
def Field.coded {α β : Type} (name : String) (get : α → β) (encode : β → Json)
    (injective : Function.Injective encode) (default : Option β) : Field α where
  name := name
  get := get
  Takes value result := value = encode result
  functional first second := injective (first.symm.trans second)
  default := default

/-- What a field holds by the members of an object. -/
abbrev Field.Denotes {α : Type} (field : Field α) (members : Fields) (result : field.Value) :
    Prop :=
  members.Value field.name field.Takes field.default result

/-- The fields of a record in their order. -/
abbrev Table (α : Type) := List (Field α)

namespace Table

variable {α : Type} {table : Table α} {members others : Fields} {result : α}

def names (table : Table α) : List String := table.map Field.name

theorem name_mem {field : Field α} (member : field ∈ table) : field.name ∈ table.names :=
  List.mem_map_of_mem member

theorem length_names : table.names.length = table.length := List.length_map _

/-- The record that the members of an object denote. -/
structure Denotes (table : Table α) (members : Fields) (result : α) : Prop where
  once : Once table.names members
  each : ∀ field ∈ table, field.Denotes members (field.get result)

/-- A member that says what is declared anyway. -/
def Idle (table : Table α) (member : String × Json) : Prop :=
  ∃ field ∈ table, field.name = member.1 ∧ ∃ declared, field.default = some declared ∧
    field.Takes member.2 declared

/-- Every choice of what the fields hold is a record. -/
def Complete (table : Table α) : Prop :=
  ∀ holds : (field : Field α) → field.Value → Prop,
    (∀ field ∈ table, ∃ value, holds field value) →
      ∃ result, ∀ field ∈ table, holds field (field.get result)

/-- There is a record for members that are accepted, unless a field that has to be there is not. -/
theorem exists_denotes_iff (complete : table.Complete) :
    (∃ result, table.Denotes members result) ↔
      Once table.names members ∧
        (∀ field ∈ table, ∀ value, (field.name, value) ∈ members →
          ∃ held, field.Takes value held) ∧
        ∀ field ∈ table, field.default = none → ∃ value, (field.name, value) ∈ members := by
  constructor
  · rintro ⟨result, once, each⟩
    refine ⟨once, fun field member value named => ?_, fun field member required => ?_⟩
    · cases each field member with
      | given other takes => exact ⟨_, once.unique (name_mem member) other named ▸ takes⟩
      | absent unnamed _ => exact absurd named (unnamed value)
    · cases each field member with
      | given named _ => exact ⟨_, named⟩
      | absent _ declared => cases required.symm.trans declared
  · rintro ⟨once, accepted, required⟩
    have each (field) (member : field ∈ table) : ∃ held, field.Denotes members held := by
      by_cases named : ∃ value, (field.name, value) ∈ members
      · obtain ⟨value, named⟩ := named
        obtain ⟨held, takes⟩ := accepted field member value named
        exact ⟨held, .given named takes⟩
      · obtain ⟨held, declared⟩ :=
          Option.ne_none_iff_exists'.mp fun none => named (required field member none)
        exact ⟨held, .absent (not_exists.mp named) declared⟩
    obtain ⟨result, each⟩ := complete (fun field => field.Denotes members) each
    exact ⟨result, once, each⟩

/-- The order of the members says nothing. -/
theorem denotes_perm (moved : members.Perm others) :
    table.Denotes members result ↔ table.Denotes others result := by
  have each (field : Field α) : field.Denotes members (field.get result) ↔
      field.Denotes others (field.get result) :=
    Fields.value_congr fun _ => moved.mem_iff
  constructor
  · rintro ⟨single, denotes⟩
    exact ⟨(once_perm moved).mp single, fun field member => (each field).mp (denotes field member)⟩
  · rintro ⟨single, denotes⟩
    exact ⟨(once_perm moved).mpr single,
      fun field member => (each field).mpr (denotes field member)⟩

/-- Members that say what is declared anyway say nothing. -/
theorem denotes_append (distinct : table.names.Nodup) (once : Once table.names (members ++ others))
    (idle : ∀ member ∈ members, table.Idle member) :
    table.Denotes (members ++ others) result ↔ table.Denotes others result := by
  have declares {field : Field α} (member : field ∈ table) {value : Json}
      (named : (field.name, value) ∈ members) :
      ∃ declared, field.default = some declared ∧ field.Takes value declared := by
    obtain ⟨same, member', name, declared⟩ := idle _ named
    have one : same = field := List.inj_on_of_nodup_map distinct member' member name
    exact one ▸ declared
  constructor
  · rintro ⟨-, each⟩
    refine ⟨once.of_append, fun field member => ?_⟩
    cases each field member with
    | given named takes =>
      rcases List.mem_append.mp named with omitted | kept
      · obtain ⟨declared, default, takes'⟩ := declares member omitted
        by_cases elsewhere : ∃ value, (field.name, value) ∈ others
        · obtain ⟨other, kept⟩ := elsewhere
          have one := once.unique (name_mem member) named (List.mem_append_right _ kept)
          exact .given kept (one ▸ takes)
        · rw [field.functional takes takes']
          exact .absent (not_exists.mp elsewhere) default
      · exact .given kept takes
    | absent unnamed default =>
      exact .absent (fun value kept => unnamed value (List.mem_append_right _ kept)) default
  · rintro ⟨-, each⟩
    refine ⟨once, fun field member => ?_⟩
    cases each field member with
    | given named takes => exact .given (List.mem_append_right _ named) takes
    | absent unnamed default =>
      by_cases named : ∃ value, (field.name, value) ∈ members
      · obtain ⟨value, named⟩ := named
        obtain ⟨declared, default', takes⟩ := declares member named
        rw [default] at default'
        cases default'
        exact .given (List.mem_append_left _ named) takes
      · refine .absent (fun value member => ?_) default
        rcases List.mem_append.mp member with omitted | kept
        · exact named ⟨value, omitted⟩
        · exact unnamed value kept

end Table

/-- A reader builds the records that a table lays down. -/
structure Follows {α : Type} (table : Table α) (layout : Layout)
    (build : (String → DecodeError) → Fields → Except DecodeError α) : Prop where
  names : table.names = layout.names
  distinct : layout.names.Nodup
  lenient : layout.closed = false
  complete : table.Complete
  builds : ∀ absent fields result, (fields.map Prod.fst).Nodup →
    (build absent fields = .ok result ↔
      ∀ field ∈ table, field.Denotes fields (field.get result))

/-- Reading depends on nothing but the fields of a table. -/
structure Fieldwise {α : Type} (table : Table α) (ofJson : Json → Except DecodeError α)
    (ofText : String → Except DecodeError α) : Prop where
  /-- An object is read as what its members denote. -/
  denoted : ∀ members result, ofJson (.record members) = .ok result ↔ table.Denotes members result
  /-- It is read if no field is given twice or by a value that it does not take, and those without
  a default are there. -/
  accepted : ∀ members, (∃ result, ofJson (.record members) = .ok result) ↔
    Once table.names members ∧
      (∀ field ∈ table, ∀ value, (field.name, value) ∈ members →
        ∃ held, field.Takes value held) ∧
      ∀ field ∈ table, field.default = none → ∃ value, (field.name, value) ∈ members
  /-- The order of the members does not matter, -/
  permuted : ∀ members others, members.Perm others →
    (ofJson (.record members)).toOption = (ofJson (.record others)).toOption
  /-- nor do members of other names, wherever and however often they stand. -/
  ignored : ∀ members, ofJson (.record members) =
    ofJson (.record (members.filter fun member => member.1 ∈ table.names))
  /-- Any members that say what is declared anyway can be left out. -/
  omitted : ∀ members idle kept, members.Perm (idle ++ kept) → Once table.names members →
    (∀ member ∈ idle, table.Idle member) →
      (ofJson (.record members)).toOption = (ofJson (.record kept)).toOption
  /-- An array is read like the object that gives its items the names in their order. -/
  arrays : ∀ items, items.length ≤ table.length →
    (ofJson (.array items)).toOption = (ofJson (.record (table.names.zip items))).toOption
  /-- An array may not end before the last field without a default, -/
  short : ∀ items, (∃ field ∈ table.drop items.length, field.default = none) →
    ∀ result, ofJson (.array items) ≠ .ok result
  /-- nor go on after the last field. -/
  long : ∀ items, table.length < items.length → ∀ result, ofJson (.array items) ≠ .ok result
  /-- Nothing else is read, in particular no object with a name that is not a text. -/
  others : ∀ value result, ofJson value = .ok result →
    (∃ members, value = .record members) ∨ ∃ items, value = .array items
  /-- A text is read as the value that it holds. -/
  texts : ∀ text result, ofText text = .ok result ↔
    ∃ value, parse? text = some value ∧ ofJson value = .ok result
  printed : ∀ value, ofText value.render = ofJson value

namespace Follows

variable {α : Type} {table : Table α} {layout : Layout}
  {build : (String → DecodeError) → Fields → Except DecodeError α} {members fields : Fields}
  {items : List Json} {result : α}

variable (follows : Follows table layout build)

include follows

theorem distinct_names : table.names.Nodup := follows.names ▸ follows.distinct

theorem read_record_iff :
    layout.read build (.record members) = .ok result ↔ table.Denotes members result := by
  rw [Layout.read_record_iff, ← follows.names]
  have same {field : Field α} (member : field ∈ table) :
      field.Denotes (layout.known members).reverse (field.get result) ↔
        field.Denotes members (field.get result) := by
    refine Fields.value_congr fun value => ?_
    have known : field.name ∈ layout.names := follows.names ▸ Table.name_mem member
    simp [Layout.known, known]
  have built (once : Once table.names members) :
      build .missing (layout.known members).reverse = .ok result ↔
        ∀ field ∈ table, field.Denotes members (field.get result) := by
    rw [follows.names, Layout.once_iff_reverse] at once
    rw [follows.builds _ _ _ once]
    exact forall₂_congr fun field member => same member
  constructor
  · rintro ⟨once, -, success⟩
    exact ⟨once, (built once).mp success⟩
  · rintro ⟨once, each⟩
    refine ⟨once, fun closed => ?_, (built once).mpr each⟩
    rw [follows.lenient] at closed
    cases closed

theorem read_array_iff (fits : items.length ≤ table.length) :
    layout.read build (.array items) = .ok result ↔
      table.Denotes (table.names.zip items) result := by
  rw [← Table.length_names] at fits
  have distinct := nodup_fst_zip follows.distinct_names fits
  rw [Layout.read, ← follows.names, if_pos fits, follows.builds _ _ _ distinct]
  constructor
  · exact fun each => ⟨fun name _ => List.nodup_iff_count_le_one.mp distinct name, each⟩
  · exact fun denotes => denotes.each

/-- A field that is left over has a default. -/
theorem not_read_of_short {field : Field α} (left : field ∈ table.drop items.length)
    (required : field.default = none) : layout.read build (.array items) ≠ .ok result := by
  intro success
  have fits : items.length ≤ table.length := by
    have some := List.length_pos_of_mem left
    rw [List.length_drop] at some
    omega
  have denotes := (follows.read_array_iff fits).mp success
  cases denotes.each field (List.mem_of_mem_drop left) with
  | @given value named _ =>
    have early : field.name ∈ table.names.take items.length :=
      fst_zip (Table.length_names ▸ fits) ▸ List.mem_map_of_mem named
    have late : field.name ∈ table.names.drop items.length := by
      rw [Table.names, ← List.map_drop]
      exact List.mem_map_of_mem left
    exact List.disjoint_take_drop follows.distinct_names (Nat.le_refl _) early late
  | absent _ declared => cases required.symm.trans declared

theorem reads_fieldwise : Fieldwise table (layout.read build) (ofText (layout.read build)) where
  denoted _ _ := follows.read_record_iff
  accepted members := by
    simp only [follows.read_record_iff]
    exact Table.exists_denotes_iff follows.complete
  permuted members others moved := toOption_eq fun result => by
    rw [follows.read_record_iff, follows.read_record_iff, Table.denotes_perm moved]
  ignored members := by
    rw [follows.names]
    exact Layout.read_known follows.lenient
  omitted members idle kept moved once declared := toOption_eq fun result => by
    rw [follows.read_record_iff, follows.read_record_iff, Table.denotes_perm moved,
      Table.denotes_append follows.distinct_names ((once_perm moved).mp once) declared]
  arrays items fits := toOption_eq fun result => by
    rw [follows.read_record_iff, follows.read_array_iff fits]
  short _ := fun ⟨_, left, required⟩ _ => follows.not_read_of_short left required
  long items beyond result := by
    rw [← Table.length_names] at beyond
    rw [Layout.read, ← follows.names, if_neg (Nat.not_le_of_lt beyond)]
    exact nofun
  others _ _ := Layout.read_eq_ok
  texts text result := by
    rw [ofText]
    cases parse? text with
    | none => simp
    | some value => simp
  printed := ofText_render _

end Follows

end PacketFlow.Json
