import SqlCommands.Proofs.Json.Documents
import SqlCommands.Proofs.Value.Encoding

/-!
# Serialized values are read back

Values and native parameters are read from their JSON text as they were written, and different ones
never share a text: `serialization_faithful`. That is so of their trees whatever they hold, as long
as their floats are finite. Of the text it asks that the reader takes the text of each of these
floats for the float itself.
-/

namespace SqlCommands

open Json

/-! ### Legible trees -/

lemma Json.legible_record {fields : List (String × Json)} (h : ∀ f ∈ fields, Legible f.2) :
    Legible (record fields) := by
  refine .object (fun m hm => ?_) fun m hm => ?_
  · obtain ⟨f, -, rfl⟩ := List.mem_map.mp hm
    exact ⟨f.1, rfl⟩
  · obtain ⟨f, hf, rfl⟩ := List.mem_map.mp hm
    exact h f hf

lemma Json.legible_ofOption {α : Type} {f : α → Json} (h : ∀ a, Legible (f a)) (x : Option α) :
    Legible (ofOption f x) := by
  cases x with
  | none => exact .null
  | some a => exact h a

lemma Json.legible_natCast {n : Nat} (h : n < Nat.pow 2 64) : Legible (.integer n) :=
  .integer (by omega) (by omega)

lemma DbParameter.legible_encode {p : DbParameter} (h : Legible p.value.encode) :
    Legible p.encode := by
  cases p with
  | mk name value direction dbType isNullable size =>
    have hsize : Legible (ofOption (fun n => .integer n.toNat) size) :=
      legible_ofOption (fun n => legible_natCast n.toNat_lt) size
    refine legible_record ?_
    simp only [List.forall_mem_cons, List.not_mem_nil, false_imp_iff, implies_true, and_true]
    exact ⟨.string name, h, .string _, legible_ofOption (fun t => .string t.name) dbType,
      legible_ofOption .bool isNullable, hsize⟩

/-- The tree of a value is legible if its finite floats are read as they are written. -/
lemma Value.legible_encode {v : Value} (h : v.EachFloat fun x => x.isFinite → ReadsBack x) :
    Legible v.encode := by
  induction v using induction_on_steps with
  | h v ih =>
    cases v with
    | null => exact .string _
    | bool b => exact legible_record (by simpa using .bool b)
    | int n =>
      have hhigh : n.toInt < Nat.pow 2 64 := Int.lt_trans n.toInt_lt (by decide)
      have hn : Legible (.integer n.toInt) := .integer n.le_toInt hhigh
      exact legible_record (by simpa using hn)
    | float x =>
      have hx : Legible (ofFloat x) := by
        unfold ofFloat
        split
        next hfinite => exact .float (eachFloat_float.mp h hfinite)
        next => exact .null
      exact legible_record (by simpa using hx)
    | string s => exact legible_record (by simpa using .string s)
    | bytes bs =>
      have hbs : Legible (.array (bs.map fun b => .integer b.toNat)) := by
        refine .array fun j hj => ?_
        obtain ⟨b, -, rfl⟩ := List.mem_map.mp hj
        exact legible_natCast (Nat.lt_trans b.toNat_lt (by decide))
      exact legible_record (by simpa using hbs)
    | array items =>
      have hitems : Legible (.array (encodeAll items)) := by
        rw [encodeAll_eq_map]
        refine .array fun j hj => ?_
        obtain ⟨a, ha, rfl⟩ := List.mem_map.mp hj
        obtain ⟨i, hi⟩ := List.mem_iff_getElem?.mp ha
        exact ih (.item i) a hi (eachFloat_array.mp h a ha)
      exact legible_record (by simpa using hitems)
    | parameter p =>
      have hp := p.legible_encode (ih .carried p.value rfl (eachFloat_parameter.mp h))
      exact legible_record (by simpa using hp)

/-! ### Trees and texts -/

/-- What writing and reading preserves of things that hold floats. -/
structure Faithful {α : Type} (encode : α → Json) (decode? : Nat → Json → Option α)
    (eachFloat : (Float → Prop) → α → Prop) : Prop where
  /-- A tree is decoded if and only if the floats in it are finite and the depth suffices, and then
  to what it is the tree of. -/
  decodes {a b : α} {depth : Nat} : decode? depth (encode a) = some b ↔
    b = a ∧ eachFloat (·.isFinite) a ∧ (encode a).nesting ≤ depth
  /-- Different things have different trees. -/
  encode_injective {a b : α} (ha : eachFloat (·.isFinite) a) (h : encode a = encode b) : a = b
  /-- A text is read if and only if the floats in it are finite and the limit on nesting allows it,
  and then as what it is the text of. -/
  reads {a b : α} (hfloats : eachFloat (fun x => x.isFinite → ReadsBack x) a) :
    (parse? (encode a).print).bind (decode? maxDepth) = some b ↔
      b = a ∧ eachFloat (·.isFinite) a ∧ (encode a).nesting ≤ maxDepth
  /-- Different things have different texts. -/
  print_injective {a b : α} (ha : eachFloat (·.isFinite) a)
    (hfloats : eachFloat (fun x => x.isFinite → ReadsBack x) a)
    (hfloats' : eachFloat (fun x => x.isFinite → ReadsBack x) b)
    (h : (encode a).print = (encode b).print) : a = b

/-- What is decoded from its trees, and has legible ones, is preserved throughout. -/
lemma faithful_of_decodes {α : Type} {encode : α → Json} {decode? : Nat → Json → Option α}
    {eachFloat : (Float → Prop) → α → Prop}
    (hdecodes : ∀ a b depth, decode? depth (encode a) = some b ↔
      b = a ∧ eachFloat (·.isFinite) a ∧ (encode a).nesting ≤ depth)
    (hlegible : ∀ a, eachFloat (fun x => x.isFinite → ReadsBack x) a → Legible (encode a)) :
    Faithful encode decode? eachFloat := by
  have hinjective {a b : α} (ha : eachFloat (·.isFinite) a) (h : encode a = encode b) : a = b := by
    have hdecoded := (hdecodes a a _).mpr ⟨rfl, ha, Nat.le_refl _⟩
    rw [h] at hdecoded
    exact ((hdecodes b a _).mp hdecoded).1
  refine ⟨hdecodes _ _ _, hinjective, fun {a b} hfloats => ?_,
    fun {a b} ha hfloats hfloats' h => ?_⟩
  · rw [parse?_print (hlegible a hfloats), Option.bind_some]
    exact hdecodes a b maxDepth
  · have htrees : some (encode a) = some (encode b) := by
      rw [← parse?_print (hlegible a hfloats), h, parse?_print (hlegible b hfloats')]
    exact hinjective ha (Option.some.inj htrees)

/-- Values and native parameters whose floats are finite are read as they were written, however deep
they are nested up to the limit, and different ones share neither tree nor text. -/
theorem serialization_faithful :
    Faithful Value.encode Value.decode? Value.EachFloat ∧
      Faithful DbParameter.encode DbParameter.decode? fun P p => p.value.EachFloat P :=
  ⟨faithful_of_decodes (fun v w depth => v.decodesAt depth w) fun _ => Value.legible_encode,
    faithful_of_decodes (fun _ _ _ => DbParameter.decode?_encode_iff)
      fun p h => p.legible_encode (Value.legible_encode h)⟩

/-- A native parameter in an array, with bytes, a float and text to be escaped inside, and some of
its fields absent. An infinite float in its place is not read back. -/
theorem serialization_faithful_nested :
    let p (x : Float) : DbParameter :=
      ⟨"@\"p\"", .array [.bytes [0, 255], .float x, .int (-5), .string "\n\x01é"], .output,
        some .binary, none, some 18446744073709551615⟩
    let v : Value := .array [.null, .parameter (p 1.5)]
    (parse? v.encode.print).bind (Value.decode? maxDepth) = some v ∧
      (parse? (p 1.5).encode.print).bind (DbParameter.decode? maxDepth) = some (p 1.5) ∧
      ∀ q, DbParameter.decode? maxDepth (p (1.0 / 0.0)).encode ≠ some q := by
  intro p v
  have hreads : ReadsBack 1.5 := by
    have htext : floatText 1.5 = "1.5" := by decide
    have hscale : scaleDown 15.0 1 = 1.5 := by
      rw [scaleDown, if_pos (by decide)]
      rfl
    have hjson : Numeral.toJson ⟨false, ['1'], some ['5'], none⟩ = .float (scaleDown 15.0 1) := rfl
    refine ⟨⟨false, ['1'], some ['5'], none⟩, ?_, ?_⟩
    · rw [htext]
      rfl
    · rw [hjson, hscale]
  have hp (P : Float → Prop) (x : Float) : (p x).value.EachFloat P ↔ P x := by simp [p]
  have hv (P : Float → Prop) : v.EachFloat P ↔ P 1.5 := by simp [v, p]
  obtain ⟨hvalues, hparameters⟩ := serialization_faithful
  refine ⟨?_, ?_, ?_⟩
  · exact (hvalues.reads ((hv _).mpr fun _ => hreads)).mpr ⟨rfl, (hv _).mpr (by decide), by decide⟩
  · exact (hparameters.reads ((hp _ _).mpr fun _ => hreads)).mpr
      ⟨rfl, (hp _ _).mpr (by decide), by decide⟩
  · intro q hq
    exact absurd ((hp _ _).mp (hparameters.decodes.mp hq).2.1) (by decide)

end SqlCommands
