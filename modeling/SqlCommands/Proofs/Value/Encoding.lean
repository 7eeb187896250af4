import SqlCommands.Proofs.Value.Positions
import SqlCommands.Value.Json

/-!
# Values decode to themselves

A value is decoded from its tree as what it is if the floats in it are finite and the decoder may
enter as many lists and objects as the tree nests, and not at all otherwise (`Value.decodesAt`). The
same is so of a native parameter (`DbParameter.decode?_encode_iff`).

Each constructor is decoded on its own, given that what it holds is decoded two levels down.
-/

namespace SqlCommands

namespace Json

/-! ### Nesting -/

mutual

/-- How deep lists and objects are nested in a tree. -/
def nesting : Json → Nat
  | .array items => nestingAll items + 1
  | .object members => nestingMembers members + 1
  | _ => 0

/-- The deepest nesting among items. -/
def nestingAll : List Json → Nat
  | [] => 0
  | j :: js => max j.nesting (nestingAll js)

/-- The deepest nesting among members. -/
def nestingMembers : List (Option String × Json) → Nat
  | [] => 0
  | (_, j) :: ms => max j.nesting (nestingMembers ms)

end

lemma nestingAll_le_iff {js : List Json} {depth : Nat} :
    nestingAll js ≤ depth ↔ ∀ j ∈ js, j.nesting ≤ depth := by
  induction js with
  | nil => simp [nestingAll]
  | cons j js ih => rw [nestingAll, Nat.max_le, ih, List.forall_mem_cons]

/-! ### Leaves -/

lemma int64?_toInt (n : Int64) : (Json.integer n.toInt).int64? = some n := by
  have hrange : Int64.minValue.toInt ≤ n.toInt ∧ n.toInt ≤ Int64.maxValue.toInt :=
    ⟨n.minValue_le_toInt, n.toInt_le⟩
  rw [int64?, integer?, if_pos hrange, Option.map_some, Int64.ofInt_toInt]

lemma uint64?_toNat (n : UInt64) : (Json.integer n.toNat).uint64? = some n := by
  have hrange : (n.toNat : Int) ≤ (UInt64.size - 1 : Nat) := by
    have := n.toNat_lt_size
    omega
  rw [uint64?, integer?, if_pos ⟨Int.natCast_nonneg _, hrange⟩, Option.map_some,
    Int.toNat_natCast, UInt64.ofNat_toNat]

lemma byte?_toNat (b : UInt8) : (Json.integer b.toNat).byte? = some b := by
  have hrange : (b.toNat : Int) ≤ 255 := by
    have := b.toNat_lt
    omega
  rw [byte?, integer?, if_pos ⟨Int.natCast_nonneg _, hrange⟩, Option.map_some,
    Int.toNat_natCast, UInt8.ofNat_toNat]

lemma float?_ofFloat (x y : Float) :
    (ofFloat x).float? = some y ↔ y = x ∧ x.isFinite = true := by
  by_cases h : x.isFinite = true <;> simp [ofFloat, h, float?, eq_comm]

/-! ### Fields and items -/

/-- A field that may be absent is read back, if what it holds is. -/
lemma optional_ofOption {α : Type} {f : α → Json} {decode : Json → Option α}
    (hnull : ∀ a, f a ≠ .null) (h : ∀ a, decode (f a) = some a) (x : Option α) :
    Slot.optional decode (.given (ofOption f x)) = some x := by
  cases x with
  | none => rfl
  | some a =>
    have hgiven : Slot.optional decode (.given (f a)) = (decode (f a)).map some := by
      cases hf : f a with
      | null => exact absurd hf (hnull a)
      | _ => rfl
    simp only [ofOption, Option.elim_some, hgiven, h, Option.map_some]

/-- Items are decoded to what they encode, if each of them is. -/
lemma mapM_map_eq_some_iff {α : Type} {encode : α → Json} {decode : Json → Option α}
    {P : α → Prop} {as bs : List α}
    (h : ∀ a ∈ as, ∀ b, decode (encode a) = some b ↔ b = a ∧ P a) :
    (as.map encode).mapM decode = some bs ↔ bs = as ∧ ∀ a ∈ as, P a := by
  induction as generalizing bs with
  | nil => simp [eq_comm]
  | cons a as ih =>
    obtain ⟨ha, has⟩ := List.forall_mem_cons.mp h
    simp only [List.map_cons, List.mapM_cons, Option.bind_eq_bind, Option.bind_eq_some_iff, ha,
      ih has, Option.pure_def, Option.some.injEq, List.forall_mem_cons]
    constructor
    · rintro ⟨b, ⟨rfl, hb⟩, bs', ⟨rfl, hbs⟩, rfl⟩
      exact ⟨rfl, hb, hbs⟩
    · rintro ⟨rfl, hb, hbs⟩
      exact ⟨a, ⟨rfl, hb⟩, as, ⟨rfl, hbs⟩, rfl⟩

end Json

open Json

/-! ### Native parameters -/

namespace DbParameter

lemma mk_fields (p : DbParameter) :
    mk p.name p.value p.direction p.dbType p.isNullable p.size = p := by
  cases p
  rfl

/-- What a record of a native parameter holds for its fields. -/
lemma slots?_encode (p : DbParameter) :
    slots? ["name", "value", "direction", "db_type", "is_nullable", "size"] p.encode =
      some [.given (.string p.name), .given p.value.encode, .given (.string p.direction.name),
        .given (ofOption (fun t => .string t.name) p.dbType),
        .given (ofOption .bool p.isNullable),
        .given (ofOption (fun n => .integer n.toNat) p.size)] := by
  cases p
  simp [DbParameter.encode, slots?, record, slotOf?, List.filter]

/-- A native parameter is decoded to itself, but for its value, which is what it is decoded to. -/
lemma decodeWith?_encode (p : DbParameter) (depth : Nat) (decodeValue : Json → Option Value) :
    decodeWith? depth decodeValue p.encode =
      (decodeValue p.value.encode).map fun v => { p with value := v } := by
  have hdbType : Slot.optional (word? depth DbType.ofName?)
      (.given (ofOption (fun t => .string t.name) p.dbType)) = some p.dbType :=
    optional_ofOption nofun DbType.ofName?_name p.dbType
  have hbool (b : Bool) : bool? (.bool b) = some b := rfl
  have hisNullable : Slot.optional bool? (.given (ofOption .bool p.isNullable)) =
      some p.isNullable := optional_ofOption nofun hbool p.isNullable
  have hsize : Slot.optional uint64? (.given (ofOption (fun n => .integer n.toNat) p.size)) =
      some p.size := optional_ofOption nofun uint64?_toNat p.size
  simp only [decodeWith?, slots?_encode, Slot.required, text?, word?, Direction.ofName?_name,
    hdbType, hisNullable, hsize]
  cases decodeValue p.value.encode <;> rfl

lemma nesting_encode (p : DbParameter) : p.encode.nesting = p.value.encode.nesting + 1 := by
  obtain ⟨name, value, direction, dbType, isNullable, size⟩ := p
  cases dbType <;> cases isNullable <;> cases size <;>
    simp [DbParameter.encode, record, nesting, nestingMembers, ofOption]

end DbParameter

/-! ### Values -/

namespace Value

lemma encodeAll_eq_map (vs : List Value) : encodeAll vs = vs.map encode := by
  induction vs with
  | nil => rfl
  | cons v vs ih => rw [encodeAll, ih, List.map_cons]

/-- Whether the tree of a value is decoded within a depth if and only if the floats in it are finite
and the depth suffices, and then to the value itself. -/
def DecodesAt (depth : Nat) (v : Value) : Prop :=
  ∀ w, decode? depth v.encode = some w ↔
    w = v ∧ v.EachFloat (·.isFinite) ∧ v.encode.nesting ≤ depth

section DecodesAt

variable {v : Value} {depth : Nat}

lemma decodesAt_of_deep (hdepth : v.encode.nesting ≤ depth)
    (h : decode? depth v.encode = some v) (hfinite : v.EachFloat (·.isFinite)) :
    DecodesAt depth v := by
  intro w
  rw [h, Option.some.injEq, eq_comm]
  exact ⟨fun hw => ⟨hw, hfinite, hdepth⟩, And.left⟩

lemma decodesAt_of_shallow (hdepth : ¬v.encode.nesting ≤ depth)
    (h : decode? depth v.encode = none) : DecodesAt depth v := by
  intro w
  rw [h]
  exact iff_of_false nofun fun hw => hdepth hw.2.2

lemma decodesAt_int (n : Int64) : DecodesAt (depth + 1) (.int n) := by
  have hcontent : decode? (depth + 1) (Value.int n).encode =
      (Json.integer n.toInt).int64?.map .int := rfl
  rw [int64?_toInt] at hcontent
  exact decodesAt_of_deep (by simp [encode, record, nesting, nestingMembers]) hcontent eachFloat_int

/-- A float that is not finite leaves null in its place, and that is no float. -/
lemma decodesAt_float (x : Float) : DecodesAt (depth + 1) (.float x) := by
  intro w
  have hcontent : decode? (depth + 1) (Value.float x).encode = (ofFloat x).float?.map .float := rfl
  have hdepth : (Value.float x).encode.nesting ≤ depth + 1 := by
    by_cases hx : x.isFinite = true <;>
      simp [encode, record, ofFloat, hx, nesting, nestingMembers]
  simp only [hcontent, Option.map_eq_some_iff, float?_ofFloat, eachFloat_float, hdepth, and_true]
  constructor
  · rintro ⟨y, ⟨rfl, hfinite⟩, rfl⟩
    exact ⟨rfl, hfinite⟩
  · rintro ⟨rfl, hfinite⟩
    exact ⟨x, ⟨rfl, hfinite⟩, rfl⟩

lemma decodesAt_bytes (bs : List UInt8) : DecodesAt (depth + 2) (.bytes bs) := by
  have hitems : (bs.map fun b => Json.integer b.toNat).mapM byte? = some bs := by
    rw [mapM_map_eq_some_iff (P := fun _ => True) (by simp [byte?_toNat, eq_comm])]
    simp
  have hcontent : decode? (depth + 2) (Value.bytes bs).encode =
      ((bs.map fun b => Json.integer b.toNat).mapM byte?).map .bytes := rfl
  rw [hitems] at hcontent
  refine decodesAt_of_deep ?_ hcontent eachFloat_bytes
  have hnesting : nestingAll (bs.map fun b => Json.integer b.toNat) ≤ depth := by
    simp [nestingAll_le_iff, nesting]
  simpa [encode, record, nesting, nestingMembers] using hnesting

lemma decodesAt_array {items : List Value} (h : ∀ a ∈ items, DecodesAt depth a) :
    DecodesAt (depth + 2) (.array items) := by
  intro w
  have hcontent : decode? (depth + 2) (Value.array items).encode =
      ((Value.encodeAll items).mapM (decode? depth)).map .array := rfl
  have hnesting : (Value.array items).encode.nesting ≤ depth + 2 ↔
      ∀ a ∈ items, a.encode.nesting ≤ depth := by
    simp [encode, encodeAll_eq_map, record, nesting, nestingMembers, nestingAll_le_iff]
  rw [hcontent, encodeAll_eq_map, Option.map_eq_some_iff, hnesting, eachFloat_array]
  simp only [mapM_map_eq_some_iff h]
  constructor
  · rintro ⟨as, ⟨rfl, has⟩, rfl⟩
    exact ⟨rfl, fun a ha => (has a ha).1, fun a ha => (has a ha).2⟩
  · rintro ⟨rfl, hfinite, hdepth⟩
    exact ⟨items, ⟨rfl, fun a ha => ⟨hfinite a ha, hdepth a ha⟩⟩, rfl⟩

lemma decodeWith?_encode_iff {p q : DbParameter} (h : DecodesAt depth p.value) :
    DbParameter.decodeWith? depth (decode? depth) p.encode = some q ↔
      q = p ∧ p.value.EachFloat (·.isFinite) ∧ p.value.encode.nesting ≤ depth := by
  rw [DbParameter.decodeWith?_encode, Option.map_eq_some_iff]
  constructor
  · rintro ⟨a, ha, rfl⟩
    obtain ⟨rfl, hfinite, hdepth⟩ := (h a).mp ha
    exact ⟨p.mk_fields, hfinite, hdepth⟩
  · rintro ⟨rfl, hfinite, hdepth⟩
    exact ⟨q.value, (h q.value).mpr ⟨rfl, hfinite, hdepth⟩, q.mk_fields⟩

lemma decodesAt_parameter {p : DbParameter} (h : DecodesAt depth p.value) :
    DecodesAt (depth + 2) (.parameter p) := by
  intro w
  have hcontent : decode? (depth + 2) (Value.parameter p).encode =
      (DbParameter.decodeWith? depth (decode? depth) p.encode).map .parameter := rfl
  have hnesting : (Value.parameter p).encode.nesting ≤ depth + 2 ↔
      p.value.encode.nesting ≤ depth := by
    simp [encode, record, nesting, nestingMembers, DbParameter.nesting_encode]
  rw [hcontent, Option.map_eq_some_iff, hnesting, eachFloat_parameter]
  simp only [decodeWith?_encode_iff h]
  constructor
  · rintro ⟨q, ⟨rfl, hq⟩, rfl⟩
    exact ⟨rfl, hq⟩
  · rintro ⟨rfl, hp⟩
    exact ⟨p, ⟨rfl, hp⟩, rfl⟩

/-- Each object costs a level, and so does the list or the record inside it. -/
theorem decodesAt (depth : Nat) (v : Value) : DecodesAt depth v := by
  induction v using induction_on_steps generalizing depth with
  | h v ih =>
    -- The decoder enters a value's object and what that holds in one step, so it gets to the
    -- values inside from two levels on.
    match depth, v with
    | 0, .null | depth + 1, .null => exact decodesAt_of_deep (Nat.zero_le _) rfl eachFloat_null
    | 0, .bool b | 0, .int n | 0, .float x | 0, .string s | 0, .bytes bs | 0, .array items
    | 0, .parameter p => exact decodesAt_of_shallow (by simp [encode, record, nesting]) rfl
    | depth + 1, .bool b | depth + 1, .string s =>
      exact decodesAt_of_deep (by simp [encode, record, nesting, nestingMembers]) rfl (by simp)
    | depth + 1, .int n => exact decodesAt_int n
    | depth + 1, .float x => exact decodesAt_float x
    | 1, .bytes bs | 1, .array items | 1, .parameter p =>
      refine decodesAt_of_shallow ?_ rfl
      simp [encode, record, nesting, nestingMembers, DbParameter.nesting_encode]
    | depth + 2, .bytes bs => exact decodesAt_bytes bs
    | depth + 2, .array items =>
      refine decodesAt_array fun a ha => ?_
      obtain ⟨i, hi⟩ := List.mem_iff_getElem?.mp ha
      exact ih (.item i) a hi depth
    | depth + 2, .parameter p => exact decodesAt_parameter (ih .carried p.value rfl depth)

end DecodesAt

end Value

/-- The tree of a native parameter is decoded if and only if the floats in it are finite and the
depth suffices, and then to the parameter itself. -/
theorem DbParameter.decode?_encode_iff {p q : DbParameter} {depth : Nat} :
    DbParameter.decode? depth p.encode = some q ↔
      q = p ∧ p.value.EachFloat (·.isFinite) ∧ p.encode.nesting ≤ depth := by
  rw [DbParameter.nesting_encode]
  cases depth with
  | zero => simp [DbParameter.decode?]
  | succ depth =>
    rw [Nat.add_le_add_iff_right]
    exact Value.decodeWith?_encode_iff (Value.decodesAt depth p.value)

end SqlCommands
