import SqlCommands.Proofs.Value.Floats
import SqlCommands.Proofs.Value.Positions

/-!
# Equality of values

Two values are equal if and only if the same stands at the same positions of both, where floats are
compared as IEEE numbers (`beq_iff_alike_at`). That makes equality a partial equivalence: it is
symmetric and transitive, and a value equals itself unless there is a NaN somewhere in it
(`beq_partial_equivalence`).
-/

namespace SqlCommands

namespace Value

/-! ### What stands at a position -/

/-- Whether two values are equal as far as can be told without a step into them. -/
inductive Alike : Value → Value → Prop where
  | null : Alike .null .null
  | bool (b : Bool) : Alike (.bool b) (.bool b)
  | int (n : Int64) : Alike (.int n) (.int n)
  | float {x y : Float} (h : IeeeEq x y) : Alike (.float x) (.float y)
  | string (s : String) : Alike (.string s) (.string s)
  | bytes (bs : List UInt8) : Alike (.bytes bs) (.bytes bs)
  | array {as bs : List Value} (length : as.length = bs.length) : Alike (.array as) (.array bs)
  | parameter {p q : DbParameter} (name : p.name = q.name) (direction : p.direction = q.direction)
      (dbType : p.dbType = q.dbType) (isNullable : p.isNullable = q.isNullable)
      (size : p.size = q.size) : Alike (.parameter p) (.parameter q)

/-- What a value shows besides what it holds. -/
structure Shape where
  kind? : Option ValueKind
  /-- The length of an array. -/
  length? : Option Nat
  /-- A native parameter, but for its value. -/
  facts? : Option (String × Direction × Option DbType × Option Bool × Option UInt64)

/-- The shape of a value. -/
def shape (v : Value) : Shape where
  kind? := v.kind?
  length? := v.asArray?.map List.length
  facts? := v.asParameter?.map fun p => (p.name, p.direction, p.dbType, p.isNullable, p.size)

namespace Alike

variable {u v w : Value}

lemma symm (h : Alike v w) : Alike w v := by
  cases h with
  | float h => exact .float h.symm
  | array length => exact .array length.symm
  | parameter name direction dbType isNullable size =>
    exact .parameter name.symm direction.symm dbType.symm isNullable.symm size.symm
  | _ => constructor

lemma trans (h : Alike u v) (h' : Alike v w) : Alike u w := by
  cases h with
  | float h =>
    cases h' with
    | float h' => exact .float (h.trans h')
  | array length =>
    cases h' with
    | array length' => exact .array (length.trans length')
  | parameter name direction dbType isNullable size =>
    cases h' with
    | parameter name' direction' dbType' isNullable' size' =>
      exact .parameter (name.trans name') (direction.trans direction') (dbType.trans dbType')
        (isNullable.trans isNullable') (size.trans size')
  | _ => exact h'

/-- A value is like itself unless it is a NaN. -/
lemma self_iff : Alike v v ↔ ∀ x, v = .float x → x.isNaN = false := by
  constructor
  · rintro h x rfl
    cases h with
    | float h => exact IeeeEq.self_iff.mp h
  · intro h
    cases v with
    | float x => exact .float (.itself (h x rfl))
    | array items => exact .array rfl
    | parameter p => exact .parameter rfl rfl rfl rfl rfl
    | _ => constructor

lemma shape_eq (h : Alike v w) : v.shape = w.shape := by
  cases h with
  | array length => simp [shape, kind?, asArray?, asParameter?, length]
  | parameter name direction dbType isNullable size =>
    simp [shape, kind?, asArray?, asParameter?, name, direction, dbType, isNullable, size]
  | _ => rfl

end Alike

/-! ### Equality step by step -/

lemma beq_eq (v w : Value) : (v == w) = v.eq w := rfl

lemma eqAll_iff {as bs : List Value} :
    Value.eqAll as bs ↔
      as.length = bs.length ∧ ∀ i : Nat, Option.Rel (fun a b : Value => a == b) as[i]? bs[i]? := by
  induction as generalizing bs with
  | nil => cases bs <;> simp [Value.eqAll]
  | cons a as ih =>
    cases bs with
    | nil => simp [Value.eqAll]
    | cons b bs =>
      rw [Value.eqAll, Bool.and_eq_true, ih, ← beq_eq]
      constructor
      · rintro ⟨hhead, hlength, htail⟩
        refine ⟨congrArg Nat.succ hlength, fun i => ?_⟩
        cases i with
        | zero => exact .some hhead
        | succ i => exact htail i
      · rintro ⟨hlength, h⟩
        have hhead : a == b := by simpa using h 0
        exact ⟨hhead, Nat.succ.inj hlength, fun i => h (i + 1)⟩

lemma parameter_eq_iff {p q : DbParameter} :
    p.eq q ↔ Alike (.parameter p) (.parameter q) ∧ p.value == q.value := by
  obtain ⟨name, value, direction, dbType, isNullable, size⟩ := p
  obtain ⟨name', value', direction', dbType', isNullable', size'⟩ := q
  simp only [DbParameter.eq, Bool.and_eq_true, beq_iff_eq, ← beq_eq]
  constructor
  · rintro ⟨⟨⟨⟨⟨hname, hvalue⟩, hdirection⟩, hdbType⟩, hisNullable⟩, hsize⟩
    exact ⟨.parameter hname hdirection hdbType hisNullable hsize, hvalue⟩
  · rintro ⟨halike, hvalue⟩
    cases halike with
    | parameter hname hdirection hdbType hisNullable hsize =>
      exact ⟨⟨⟨⟨⟨hname, hvalue⟩, hdirection⟩, hdbType⟩, hisNullable⟩, hsize⟩

/-- Equal values are alike, and each step into one leads to what equals the same step into the
other. -/
lemma beq_iff_alike {v w : Value} :
    v == w ↔
      Alike v w ∧ ∀ s, Option.Rel (fun a b : Value => a == b) (v.step? s) (w.step? s) := by
  rw [beq_eq]
  fun_cases Value.eq v w with
  | case1 => exact iff_of_true rfl ⟨.null, fun _ => .none⟩
  | case2 a b | case3 a b | case5 a b | case6 a b =>
    constructor
    · intro h
      cases eq_of_beq h
      exact ⟨by constructor, fun _ => .none⟩
    · rintro ⟨halike, -⟩
      cases halike
      exact beq_self_eq_true a
  | case4 x y =>
    constructor
    · intro h
      exact ⟨.float (beq_iff_ieeeEq.mp h), fun _ => .none⟩
    · rintro ⟨halike, -⟩
      cases halike with
      | float h => exact beq_iff_ieeeEq.mpr h
  | case7 as bs =>
    rw [eqAll_iff]
    constructor
    · rintro ⟨hlength, h⟩
      refine ⟨.array hlength, fun s => ?_⟩
      cases s with
      | item i => exact h i
      | carried => exact .none
    · rintro ⟨halike, h⟩
      cases halike with
      | array length => exact ⟨length, fun i => h (.item i)⟩
  | case8 p q =>
    constructor
    · intro heq
      obtain ⟨hfacts, hvalue⟩ := parameter_eq_iff.mp heq
      refine ⟨hfacts, fun s => ?_⟩
      cases s with
      | item i => exact .none
      | carried => exact .some hvalue
    · rintro ⟨hfacts, h⟩
      have hcarried : Option.Rel (fun a b : Value => a == b) (some p.value) (some q.value) :=
        h .carried
      exact parameter_eq_iff.mpr ⟨hfacts, by simpa using hcarried⟩
  | case9 v w hnull hbool hint hfloat hstring hbytes harray hparameter =>
    refine iff_of_false Bool.false_ne_true ?_
    rintro ⟨halike, -⟩
    cases halike with
    | null => exact hnull rfl rfl
    | bool b => exact hbool b b rfl rfl
    | int n => exact hint n n rfl rfl
    | float => exact hfloat _ _ rfl rfl
    | string s => exact hstring s s rfl rfl
    | bytes bs => exact hbytes bs bs rfl rfl
    | array => exact harray _ _ rfl rfl
    | parameter => exact hparameter _ _ rfl rfl

/-! ### Equality at all positions -/

/-- Values are equal if and only if they are alike at all positions. -/
theorem beq_iff_alike_at {v w : Value} :
    v == w ↔ ∀ path, Option.Rel Alike (v.at? path) (w.at? path) := by
  constructor
  · intro h path
    induction path generalizing v w with
    | nil => exact .some (beq_iff_alike.mp h).1
    | cons s path ih =>
      have hstep := (beq_iff_alike.mp h).2 s
      rw [at?_cons, at?_cons]
      generalize v.step? s = x, w.step? s = y at hstep
      cases hstep with
      | some hequal => exact ih hequal
      | none => exact .none
  · intro h
    induction v using induction_on_steps generalizing w with
    | h v ih =>
      have halike : Alike v w := by simpa using h []
      refine beq_iff_alike.mpr ⟨halike, fun s => ?_⟩
      have hstep := h [s]
      have hbelow (path : List Step) := h (s :: path)
      simp only [at?_cons, at?_nil, Option.bind_fun_some] at hstep hbelow
      cases hv : v.step? s with
      | none => cases hw : w.step? s with
        | none => exact .none
        | some b => simp [hv, hw] at hstep
      | some a => cases hw : w.step? s with
        | none => simp [hv, hw] at hstep
        | some b =>
          refine .some (ih s a hv fun path => ?_)
          simpa only [hv, hw, Option.bind_some] using hbelow path

/-! ### Partial equivalence -/

section Rel

variable {x y z : Option Value}

lemma rel_alike_symm (h : Option.Rel Alike x y) : Option.Rel Alike y x := by
  cases h with
  | some h => exact .some h.symm
  | none => exact .none

lemma rel_alike_trans (h : Option.Rel Alike x y) (h' : Option.Rel Alike y z) :
    Option.Rel Alike x z := by
  cases h with
  | some h =>
    cases h' with
    | some h' => exact .some (h.trans h')
  | none => exact h'

lemma rel_alike_self_iff :
    Option.Rel Alike x x ↔ ∀ n, x = some (.float n) → n.isNaN = false := by
  cases x with
  | none => simp
  | some v => simp [Alike.self_iff]

end Rel

/-- Equality is symmetric and transitive, and a value equals itself if and only if no NaN occurs in
it at any depth. Equal values have the same shape at every position, and values are equal if and
only if they are alike at every position, which leaves them to differ in the signs of zeros. -/
theorem beq_partial_equivalence :
    (∀ v w : Value, v == w → w == v) ∧
      (∀ u v w : Value, u == v → v == w → u == w) ∧
      (∀ v : Value, v == v ↔ v.EachFloat fun x => x.isNaN = false) ∧
      (∀ v w : Value, v == w → ∀ path, (v.at? path).map shape = (w.at? path).map shape) ∧
      ∀ v w : Value, v == w ↔ ∀ path, Option.Rel Alike (v.at? path) (w.at? path) := by
  refine ⟨fun v w h => ?_, fun u v w h h' => ?_, fun v => ?_, fun v w h path => ?_,
    fun v w => beq_iff_alike_at⟩
  · exact beq_iff_alike_at.mpr fun path => rel_alike_symm (beq_iff_alike_at.mp h path)
  · exact beq_iff_alike_at.mpr fun path =>
      rel_alike_trans (beq_iff_alike_at.mp h path) (beq_iff_alike_at.mp h' path)
  · simp only [beq_iff_alike_at, rel_alike_self_iff, EachFloat]
  · have halike := beq_iff_alike_at.mp h path
    generalize v.at? path = x, w.at? path = y at halike
    cases halike with
    | some h => exact congrArg some h.shape_eq
    | none => rfl

/-- A parameter inside an array, with an array inside: two zeros are equal there, and a NaN is not
even equal to itself. -/
theorem beq_partial_equivalence_nested :
    let v (x : Float) : Value :=
      .array [.null, .parameter { DbParameter.named "@p" with value := .array [.float x] }]
    v 0.0 == v (-0.0) ∧ v (-0.0) == v 0.0 ∧ v 0.0 == v 0.0 ∧ ¬v (0.0 / 0.0) == v (0.0 / 0.0) := by
  intro v
  obtain ⟨hsymm, htrans, hself, -, -⟩ := beq_partial_equivalence
  have hzeros : v 0.0 == v (-0.0) := by decide
  have hback := hsymm _ _ hzeros
  refine ⟨hzeros, hback, htrans _ _ _ hzeros hback, ?_⟩
  rw [hself]
  intro h
  exact absurd (h [.item 1, .carried, .item 0] (0.0 / 0.0) rfl) (by decide)

end Value

end SqlCommands
