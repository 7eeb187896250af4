import SqlCommands.Proofs.Text.Lines

/-!
# Blocks

A guard takes back the one level it went deeper, and does not remember where it began. So what it
leaves behind depends on the block: a block that goes up no more often than it went deeper before,
and as often in all, ends at the level it began with, and so does every block inside it.

Such a block never comes to level zero from above, where a step up would be lost, so it runs alike
at every level: it writes what it writes at level zero, behind a wider margin
(`TextStep.indent_shifts`).
-/

namespace SqlCommands

/-! ### Rises -/

/-- Whether rises never lead below zero, wherever they stop. -/
def Aloft (start : Int) (rises : List Int) : Prop :=
  ∀ front, front <+: rises → 0 ≤ start + front.sum

@[simp] lemma aloft_nil (start : Int) : Aloft start [] ↔ 0 ≤ start := by
  simp [Aloft]

@[simp] lemma aloft_cons (start rise : Int) (rises : List Int) :
    Aloft start (rise :: rises) ↔ 0 ≤ start ∧ Aloft (start + rise) rises := by
  simp only [Aloft, List.prefix_cons_iff]
  constructor
  · intro h
    refine ⟨by simpa using h [] (Or.inl rfl), fun front hfront => ?_⟩
    simpa [Int.add_assoc] using h (rise :: front) (Or.inr ⟨front, rfl, hfront⟩)
  · rintro ⟨hstart, h⟩ _ (rfl | ⟨front, rfl, hfront⟩)
    · simpa using hstart
    · simpa [Int.add_assoc] using h front hfront

lemma aloft_singleton {start rise : Int} (h : 0 ≤ start) (h' : 0 ≤ start + rise) :
    Aloft start [rise] := by
  rw [aloft_cons, aloft_nil]
  exact ⟨h, h'⟩

@[simp] lemma aloft_append (start : Int) (rises rises' : List Int) :
    Aloft start (rises ++ rises') ↔ Aloft start rises ∧ Aloft (start + rises.sum) rises' := by
  induction rises generalizing start with
  | nil =>
    have hstart : Aloft start rises' → 0 ≤ start := fun h => by
      simpa using h [] List.nil_prefix
    simpa using hstart
  | cons rise rises ih => simp [ih, and_assoc, Int.add_assoc]

lemma Aloft.mono {start start' : Int} {rises : List Int} (h : Aloft start rises)
    (hle : start ≤ start') : Aloft start' rises := fun front hfront => by
  have := h front hfront
  omega

lemma Aloft.of_prefix {start : Int} {rises rises' : List Int} (h : Aloft start rises)
    (hp : rises' <+: rises) : Aloft start rises' := fun front hfront => h front (hfront.trans hp)

namespace Stroke

/-- Strokes that stay aloft rise as far as they say. -/
lemma level_performAll {strokes : List Stroke} {t : Indented}
    (h : Aloft t.level (strokes.map rise)) :
    ((performAll strokes t).level : Int) = t.level + riseAll strokes := by
  induction strokes generalizing t with
  | nil => simp
  | cons stroke strokes ih =>
    rw [List.map_cons, aloft_cons] at h
    obtain ⟨-, hrest⟩ := h
    have hstroke : ((stroke.perform t).level : Int) = t.level + stroke.rise := by
      have hfirst : 0 ≤ (t.level : Int) + stroke.rise := by simpa using hrest [] List.nil_prefix
      rw [level_perform, max_eq_right hfirst]
    rw [performAll_cons, ih (hstroke ▸ hrest), hstroke]
    simp [riseAll, Int.add_assoc]

/-- The same text, some levels deeper. -/
def Piece.lift (levels : Nat) (p : Piece) : Piece := { p with level := p.level + levels }

/-- Strokes that stay aloft write the same texts on the same lines some levels deeper. -/
lemma lines_add (levels : Nat) {level : Nat} {strokes : List Stroke}
    (h : Aloft level (strokes.map rise)) :
    lines (level + levels) strokes = (lines level strokes).map (·.map (Piece.lift levels)) := by
  induction strokes generalizing level with
  | nil => rfl
  | cons stroke strokes ih =>
    rw [List.map_cons, aloft_cons] at h
    obtain ⟨-, h⟩ := h
    cases stroke with
    | write s =>
      obtain ⟨first, rest, hlines⟩ := List.exists_cons_of_ne_nil (lines_ne_nil level strokes)
      rw [lines, lines, ih (by simpa [rise] using h), hlines]
      rfl
    | endLine => rw [lines, lines, ih (by simpa [rise] using h), List.map_cons, List.map_nil]
    | deeper =>
      rw [lines, lines, ← ih (by simpa [rise] using h)]
      congr 1
      omega
    | shallower =>
      have hlevel : 1 ≤ level := by
        have hfirst := h [] List.nil_prefix
        simp only [rise, List.sum_nil] at hfirst
        omega
      have hrest : Aloft ((level - 1 : Nat) : Int) (strokes.map rise) := by
        have heq : ((level - 1 : Nat) : Int) = level + -1 := by omega
        rwa [heq]
      rw [lines, lines, ← ih hrest]
      congr 1
      omega

/-- Some levels deeper a line has a wider margin, unless it is empty. -/
lemma lineText_map_lift (levels : Nat) (line : List Piece) :
    (lineText (line.map (Piece.lift levels))).toList =
      if (lineText line).toList = [] then []
      else List.replicate (4 * levels) ' ' ++ (lineText line).toList := by
  have hfind : (line.map (Piece.lift levels)).find? (·.text ≠ "") =
      (line.find? (·.text ≠ "")).map (Piece.lift levels) := List.find?_map
  have htexts : (line.map (Piece.lift levels)).map Piece.text = line.map Piece.text := by
    rw [List.map_map]
    rfl
  cases hfirst : line.find? (·.text ≠ "") with
  | none =>
    rw [hfirst, Option.map_none] at hfind
    rw [lineText_eq_empty (find?_eq_none_iff.mp hfirst),
      lineText_eq_empty (find?_eq_none_iff.mp hfind)]
    rfl
  | some first =>
    have hne : (lineText line).toList ≠ [] := by
      have hjoin : String.join (line.map Piece.text) ≠ "" := by
        rw [Ne, join_eq_empty_iff, ← find?_eq_none_iff, hfirst]
        simp
      rw [lineText_of_find? hfirst, String.toList_append]
      exact List.append_ne_nil_of_right_ne_nil _ fun h => hjoin (String.toList_inj.mp h)
    have hmargin : (Indented.margin (first.lift levels).level).toList =
        List.replicate (4 * levels) ' ' ++ (Indented.margin first.level).toList := by
      have hlevel : 4 * (first.lift levels).level = 4 * levels + 4 * first.level := by
        simp only [Piece.lift]
        omega
      rw [Indented.margin, Indented.margin, String.toList_ofList, String.toList_ofList, hlevel,
        List.replicate_add]
    rw [hfirst, Option.map_some] at hfind
    rw [if_neg hne, lineText_of_find? hfind, lineText_of_find? hfirst, htexts,
      String.toList_append, String.toList_append, hmargin, List.append_assoc]

end Stroke

open Stroke (performAll lineText riseAll)

/-- A text with every line that is not empty behind a wider margin. -/
def Indented.shifted (levels : Nat) (s : String) : String :=
  String.ofList <| ['\n'].intercalate <| (s.toList.splitOn '\n').map fun line =>
    if line = [] then [] else List.replicate (4 * levels) ' ' ++ line

namespace TextStep

/-! ### Balanced scripts -/

/-- How far a step rises, apart from blocks. -/
def rise : TextStep → Int
  | increment => 1
  | decrement => -1
  | _ => 0

mutual

/-- The blocks of a step, at any depth. -/
def blocks : TextStep → List (List TextStep)
  | indent block => block :: blocksAll block
  | _ => []

/-- The blocks of steps, at any depth. -/
def blocksAll : List TextStep → List (List TextStep)
  | [] => []
  | step :: steps => step.blocks ++ blocksAll steps

end

/-- Whether the steps of a block never take the level below where the block began, and leave it
there at the end. -/
structure Level (block : List TextStep) : Prop where
  aloft : Aloft 0 (block.map rise)
  sum_eq : (block.map rise).sum = 0

/-- Whether the steps of a script, and those of each block in it at any depth, are level. -/
def Balanced (script : List TextStep) : Prop := ∀ block ∈ script :: blocksAll script, Level block

lemma aloft_strokesOfLines (ls : List (List Char)) {start : Int} (h : 0 ≤ start) :
    Aloft start ((strokesOfLines ls).map Stroke.rise) ∧ riseAll (strokesOfLines ls) = 0 := by
  cases ls with
  | nil => simpa [strokesOfLines, Stroke.rise, riseAll] using h
  | cons l ls =>
    rw [strokesOfLines]
    induction l :: ls with
    | nil => simpa [riseAll] using h
    | cons l ls ih => simpa [Stroke.rise, riseAll, h] using ih

mutual

/-- With level blocks, the strokes of a step rise as the step does. -/
lemma aloft_strokes : ∀ (step : TextStep) {start : Int}, (∀ block ∈ step.blocks, Level block) →
    0 ≤ start → 0 ≤ start + step.rise →
    Aloft start (step.strokes.map Stroke.rise) ∧ riseAll step.strokes = step.rise
  | append _, _, _, h, _ => by simpa [strokes, Stroke.rise, riseAll, rise] using h
  | appendLine _, _, _, h, _ => by simpa [strokes, Stroke.rise, riseAll, rise] using h
  | appendEmptyLine, _, _, h, _ => by simpa [strokes, Stroke.rise, riseAll, rise] using h
  | appendLines s, start, _, h, _ => by
    obtain ⟨haloft, hrise⟩ := aloft_strokesOfLines (Indented.linesOfPieces (s.toList.splitOn '\n')) h
    exact ⟨haloft, hrise⟩
  | increment, _, _, h, h' => ⟨aloft_singleton h h', rfl⟩
  | decrement, _, _, h, h' => ⟨aloft_singleton h h', rfl⟩
  | indent block, start, hblocks, h, _ => by
    obtain ⟨hlevel, hinner⟩ := List.forall_mem_cons.mp hblocks
    obtain ⟨haloft, hsum⟩ := aloft_strokesAll block hinner hlevel.aloft
    rw [hlevel.sum_eq] at hsum
    have hwithin : Aloft (start + 1) ((strokesAll block).map Stroke.rise) :=
      haloft.mono (by omega)
    rw [riseAll] at hsum
    simp [strokes, Stroke.rise, riseAll, rise, hsum, hwithin, h]
    omega

/-- With level blocks, the strokes of a script rise as its own steps do. -/
lemma aloft_strokesAll : ∀ (steps : List TextStep) {start : Int},
    (∀ block ∈ blocksAll steps, Level block) → Aloft start (steps.map rise) →
    Aloft start ((strokesAll steps).map Stroke.rise) ∧
      riseAll (strokesAll steps) = (steps.map rise).sum
  | [], _, _, h => ⟨h, rfl⟩
  | step :: steps, start, hblocks, h => by
    rw [blocksAll, List.forall_mem_append] at hblocks
    rw [List.map_cons, aloft_cons] at h
    obtain ⟨hstart, hrest⟩ := h
    have hnext : 0 ≤ start + step.rise := by simpa using hrest [] List.nil_prefix
    obtain ⟨hstep, hrise⟩ := aloft_strokes step hblocks.1 hstart hnext
    obtain ⟨hsteps, hrises⟩ := aloft_strokesAll steps hblocks.2 hrest
    have hsum : (step.strokes.map Stroke.rise).sum = step.rise := hrise
    rw [strokesAll, List.map_append, aloft_append, hsum, Stroke.riseAll_append, hrise, hrises]
    exact ⟨⟨hstep, hsteps⟩, by simp⟩

end

/-! ### States -/

mutual

/-- Whatever is seen during a step, its first strokes led there. -/
lemma exists_front_of_mem_states : ∀ {step : TextStep} {t u : Indented}, u ∈ step.states t →
    ∃ front, front <+: step.strokes ∧ u = performAll front t
  | indent block, t, u, h => by
    rw [states, List.mem_append, List.mem_singleton] at h
    rcases h with h | rfl
    · obtain ⟨front, hfront, rfl⟩ := exists_front_of_mem_statesAll h
      refine ⟨.deeper :: front, ?_, rfl⟩
      rw [strokes, List.cons_prefix_cons]
      exact ⟨rfl, hfront.trans (List.prefix_append _ _)⟩
    · exact ⟨_, List.prefix_rfl, run_eq_performAll _ t⟩
  | append _, t, u, h => ⟨_, List.prefix_rfl, List.mem_singleton.mp h⟩
  | appendLine _, t, u, h => ⟨_, List.prefix_rfl, List.mem_singleton.mp h⟩
  | appendEmptyLine, t, u, h => ⟨_, List.prefix_rfl, List.mem_singleton.mp h⟩
  | appendLines s, t, u, h =>
    ⟨_, List.prefix_rfl, (List.mem_singleton.mp h).trans (run_eq_performAll (appendLines s) t)⟩
  | increment, t, u, h => ⟨_, List.prefix_rfl, List.mem_singleton.mp h⟩
  | decrement, t, u, h => ⟨_, List.prefix_rfl, List.mem_singleton.mp h⟩

lemma exists_front_of_mem_statesAll : ∀ {steps : List TextStep} {t u : Indented},
    u ∈ statesAll steps t → ∃ front, front <+: strokesAll steps ∧ u = performAll front t
  | [], _, _, h => by cases h
  | step :: steps, t, u, h => by
    rcases List.mem_append.mp h with h | h
    · obtain ⟨front, hfront, rfl⟩ := exists_front_of_mem_states h
      exact ⟨front, hfront.trans (List.prefix_append _ _), rfl⟩
    · obtain ⟨front, hfront, rfl⟩ := exists_front_of_mem_statesAll h
      refine ⟨step.strokes ++ front, (List.prefix_append_right_inj _).mpr hfront, ?_⟩
      rw [Stroke.performAll_append, run_eq_performAll]

end

/-! ### Blocks -/

/-- At the start of a line, a balanced block ends at the level it began with, is never less than one
level deeper in between, and writes what it writes on its own, shifted by its level. -/
theorem indent_shifts {t : Indented} (ht : t.pending = true) {script : List TextStep}
    (hwritten : ∀ s ∈ textsAll script, '\n' ∉ s.toList) (hbalanced : Balanced script) :
    let ran := (indent script).run t
    ran.level = t.level ∧
      (∀ u ∈ statesAll script t.increment, t.level + 1 ≤ u.level) ∧
      ran.text = t.text ++ Indented.shifted (t.level + 1) (runAll script .blank).text := by
  intro ran
  obtain ⟨hlevel, hblocks⟩ := List.forall_mem_cons.mp hbalanced
  obtain ⟨haloft, hsum⟩ := aloft_strokesAll script hblocks hlevel.aloft
  rw [hlevel.sum_eq] at hsum
  have hbegin : (t.increment.level : Int) = t.level + 1 := rfl
  have hdeeper : Aloft t.increment.level ((strokesAll script).map Stroke.rise) :=
    haloft.mono (by omega)
  have hran : ran = (performAll (strokesAll script) t.increment).decrement := by
    rw [← runAll_eq_performAll]
    rfl
  refine ⟨?_, fun u hu => ?_, ?_⟩
  · have hend := Stroke.level_performAll hdeeper
    rw [hran, Indented.decrement]
    dsimp only
    omega
  · obtain ⟨front, hfront, rfl⟩ := exists_front_of_mem_statesAll hu
    have hmap := hfront.map Stroke.rise
    have hrise : 0 ≤ 0 + riseAll front := haloft _ hmap
    have hu := Stroke.level_performAll (hdeeper.of_prefix hmap)
    omega
  · have hlines : Stroke.lines (t.level + 1) (strokesAll script) =
        (Stroke.lines 0 (strokesAll script)).map (·.map (Stroke.Piece.lift (t.level + 1))) := by
      simpa using Stroke.lines_add (t.level + 1) haloft
    have htext : ran.text = t.text
        ++ "\n".intercalate ((Stroke.lines (t.level + 1) (strokesAll script)).map lineText) := by
      rw [hran]
      exact Stroke.text_performAll (t := t.increment) ht _
    rw [htext, hlines, Indented.shifted, splitOn_text_runAll hwritten]
    congr 1
    rw [← String.toList_inj, String.toList_intercalate, String.toList_ofList]
    rw [String.toList_ofList]
    simp only [List.map_map]
    congr 1
    refine List.map_congr_left fun line _ => ?_
    exact Stroke.lineText_map_lift (t.level + 1) line

/-- Inside a block deeper levels come and go, and lines may be left empty. -/
theorem indent_shifts_nested :
    let t : Indented := ⟨"IF\n", 1, true⟩
    let script : List TextStep :=
      [.appendLine "a", .increment, .append "b", .decrement, .appendLines "c\n\nd",
        .indent [.increment, .appendLine "e", .decrement]]
    t.pending = true ∧ (∀ s ∈ textsAll script, '\n' ∉ s.toList) ∧ Balanced script ∧
      ((indent script).run t).level = 1 ∧
      ((indent script).run t).text =
        "IF\n        a\n            bc\n\n        d\n                e\n" := by
  intro t script
  have hwritten : ∀ s ∈ textsAll script, '\n' ∉ s.toList := by decide
  have hbalanced : Balanced script := by
    intro block hblock
    rcases List.mem_cons.mp hblock with rfl | hblock
    · exact ⟨by simp [script, rise], by decide⟩
    · rw [List.mem_singleton.mp hblock]
      exact ⟨by simp [rise], by decide⟩
  obtain ⟨hlevel, -, htext⟩ := indent_shifts (t := t) rfl hwritten hbalanced
  exact ⟨rfl, hwritten, hbalanced, hlevel, htext.trans (by decide)⟩

end TextStep

end SqlCommands
