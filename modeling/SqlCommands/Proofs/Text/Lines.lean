import Mathlib.Algebra.BigOperators.Group.List.Basic
import Mathlib.Algebra.Order.Group.Int
import Mathlib.Algebra.Ring.Int.Defs
import Mathlib.Data.List.Infix
import Mathlib.Order.Bounds.Defs
import Mathlib.Tactic.Lemma
import SqlCommands.Proofs.Template.Faults
import SqlCommands.Text.Indented

/-!
# Lines of a script

Steps of putting text together come down to strokes: a text is written, a line is ended, or the
level changes. `Stroke.lines` keeps for every line which texts were written on it and at which
level, and `Stroke.lineText` tells what such a line looks like. Neither knows of a line that waits
for its indentation, but together they say what a script writes: `TextStep.runAll_writes_lines`.

The level is the greatest rise over a last stretch of the script. The empty stretch rises by
nothing, so there is no level below zero.
-/

namespace SqlCommands

/-- One thing that is done to a text. -/
inductive Stroke where
  | write (s : String)
  | endLine
  | deeper
  | shallower
deriving DecidableEq

namespace Stroke

/-! ### Strokes on a text -/

/-- Do one thing to a text. -/
def perform : Stroke → Indented → Indented
  | write s, t => t.append s
  | endLine, t => t.appendEmptyLine
  | deeper, t => t.increment
  | shallower, t => t.decrement

/-- Do one thing after the other. -/
def performAll (strokes : List Stroke) (t : Indented) : Indented :=
  strokes.foldl (fun t stroke => stroke.perform t) t

@[simp] lemma performAll_nil (t : Indented) : performAll [] t = t := rfl

@[simp] lemma performAll_cons (stroke : Stroke) (strokes : List Stroke) (t : Indented) :
    performAll (stroke :: strokes) t = performAll strokes (stroke.perform t) := rfl

@[simp] lemma performAll_append (strokes strokes' : List Stroke) (t : Indented) :
    performAll (strokes ++ strokes') t = performAll strokes' (performAll strokes t) :=
  List.foldl_append

/-! ### Lines -/

/-- A text on a line, with the level at which it was written. -/
structure Piece where
  level : Nat
  text : String
deriving DecidableEq

/-- The lines of strokes that begin at a level. The last one is not ended. -/
def lines (level : Nat) : List Stroke → List (List Piece)
  | [] => [[]]
  | write s :: strokes => (lines level strokes).modifyHead (⟨level, s⟩ :: ·)
  | endLine :: strokes => [] :: lines level strokes
  | deeper :: strokes => lines (level + 1) strokes
  | shallower :: strokes => lines (level - 1) strokes

/-- What a line looks like. It stays empty if only empty texts were written on it; else it begins
with four spaces for each level of its first text that is not empty. -/
def lineText (line : List Piece) : String :=
  match line.find? (·.text ≠ "") with
  | none => ""
  | some first => String.ofList (List.replicate (4 * first.level) ' ')
      ++ String.join (line.map Piece.text)

@[simp] lemma lineText_nil : lineText [] = "" := rfl

lemma lines_ne_nil (level : Nat) (strokes : List Stroke) : lines level strokes ≠ [] := by
  induction strokes generalizing level with
  | nil => simp [lines]
  | cons stroke strokes ih => cases stroke <;> simp [lines, ih]

/-- What is on a line was written by a stroke. -/
lemma write_mem_of_mem_lines {level : Nat} {strokes : List Stroke} {line : List Piece}
    (hl : line ∈ lines level strokes) {p : Piece} (hp : p ∈ line) : write p.text ∈ strokes := by
  induction strokes generalizing level line with
  | nil =>
    rw [List.mem_singleton.mp hl] at hp
    cases hp
  | cons stroke strokes ih =>
    cases stroke with
    | write s =>
      obtain ⟨first, rest, hlines⟩ := List.exists_cons_of_ne_nil (lines_ne_nil level strokes)
      rw [lines, hlines, List.modifyHead_cons] at hl
      rcases List.mem_cons.mp hl with rfl | hl
      · rcases List.mem_cons.mp hp with rfl | hp
        · exact List.mem_cons_self
        · exact List.mem_cons_of_mem _ (ih (hlines ▸ List.mem_cons_self) hp)
      · exact List.mem_cons_of_mem _ (ih (hlines ▸ List.mem_cons_of_mem _ hl) hp)
    | endLine =>
      rcases List.mem_cons.mp hl with rfl | hl
      · cases hp
      · exact List.mem_cons_of_mem _ (ih hl hp)
    | deeper => exact List.mem_cons_of_mem _ (ih hl hp)
    | shallower => exact List.mem_cons_of_mem _ (ih hl hp)

/-- A line shows only what was written on it, and spaces. -/
lemma notMem_lineText {line : List Piece} {c : Char} (hc : c ≠ ' ')
    (h : ∀ p ∈ line, c ∉ p.text.toList) : c ∉ (lineText line).toList := by
  unfold lineText
  split
  · simp
  · simpa [String.toList_join, hc] using h

lemma find?_eq_none_iff {line : List Piece} :
    line.find? (·.text ≠ "") = none ↔ ∀ p ∈ line, p.text = "" := by
  simp [List.find?_eq_none]

lemma join_eq_empty_iff {line : List Piece} :
    String.join (line.map Piece.text) = "" ↔ ∀ p ∈ line, p.text = "" := by
  rw [← String.toList_inj, String.toList_join]
  simp [List.flatMap_eq_nil_iff]

lemma lineText_eq_empty {line : List Piece} (h : ∀ p ∈ line, p.text = "") : lineText line = "" := by
  rw [lineText, find?_eq_none_iff.mpr h]

lemma lineText_of_find? {line : List Piece} {first : Piece}
    (h : line.find? (·.text ≠ "") = some first) :
    lineText line =
      Indented.margin first.level ++ String.join (line.map Piece.text) := by
  rw [lineText, h]
  rfl

/-- A text that is not empty is indented if it is the first one on its line. -/
lemma lineText_concat (line : List Piece) (level : Nat) (s : String) :
    lineText (line ++ [⟨level, s⟩]) =
      if s = "" then lineText line
      else if ∀ p ∈ line, p.text = "" then Indented.margin level ++ s
      else lineText line ++ s := by
  have hfind : (line ++ [⟨level, s⟩] : List Piece).find? (·.text ≠ "") =
      (line.find? (·.text ≠ "")).or (if s = "" then none else some ⟨level, s⟩) := by
    by_cases hs : s = "" <;> simp [hs]
  have hjoin : String.join ((line ++ [⟨level, s⟩] : List Piece).map Piece.text) =
      String.join (line.map Piece.text) ++ s := by
    simp [String.join]
  cases hline : line.find? (·.text ≠ "") with
  | none =>
    have hempty := find?_eq_none_iff.mp hline
    rw [hline, Option.none_or] at hfind
    by_cases hs : s = ""
    · rw [if_pos hs] at hfind ⊢
      rw [lineText, hfind, lineText_eq_empty hempty]
    · rw [if_neg hs] at hfind ⊢
      rw [lineText_of_find? hfind, hjoin, if_pos hempty, join_eq_empty_iff.mpr hempty,
        String.empty_append]
  | some first =>
    have hne : ¬ ∀ p ∈ line, p.text = "" := by
      rw [← find?_eq_none_iff, hline]
      simp
    rw [hline, Option.some_or] at hfind
    rw [lineText_of_find? hfind, lineText_of_find? hline, hjoin, if_neg hne, ← String.append_assoc]
    by_cases hs : s = ""
    · rw [if_pos hs, hs, String.append_empty]
    · rw [if_neg hs]

/-- Whether a text stands on a line, behind a front of finished lines. -/
structure On (t : Indented) (front : String) (line : List Piece) : Prop where
  text : t.text = front ++ lineText line
  pending : t.pending = true ↔ ∀ p ∈ line, p.text = ""

namespace On

variable {t : Indented} {front : String} {line : List Piece}

lemma write (h : On t front line) (s : String) :
    On (t.append s) front (line ++ [⟨t.level, s⟩]) := by
  by_cases hs : s = ""
  · refine ⟨?_, ?_⟩
    · rw [lineText_concat, if_pos hs, ← h.text, hs, Indented.append, if_pos rfl]
    · rw [hs, Indented.append, if_pos rfl, h.pending]
      simp [or_imp, forall_and]
  · have hlast : ¬ ∀ p ∈ line ++ [⟨t.level, s⟩], p.text = "" := fun hall =>
      hs (hall ⟨t.level, s⟩ (List.mem_append_right _ List.mem_cons_self))
    rw [Indented.append, if_neg hs]
    cases hp : t.pending with
    | true =>
      have hline := h.pending.mp hp
      refine ⟨?_, by simpa using hlast⟩
      simp only [if_true, lineText_concat, if_neg hs, if_pos hline]
      rw [h.text, lineText_eq_empty hline, String.append_empty, String.append_assoc]
    | false =>
      have hline : ¬ ∀ p ∈ line, p.text = "" := by
        rw [← h.pending, hp]
        simp
      refine ⟨?_, by simpa [hp] using hlast⟩
      simp only [lineText_concat, if_neg hs, if_neg hline]
      simp only [Bool.false_eq_true, if_false, h.text, String.append_assoc]

lemma endLine (h : On t front line) :
    On t.appendEmptyLine (front ++ lineText line ++ "\n") [] := by
  refine ⟨?_, by simp [Indented.appendEmptyLine]⟩
  rw [Indented.appendEmptyLine, h.text, lineText_nil, String.append_empty]

/-- Strokes go on with the line a text stands on, and put line after line behind it. -/
lemma text_performAll (h : On t front line) (strokes : List Stroke) :
    (performAll strokes t).text =
      front ++ "\n".intercalate
        (((lines t.level strokes).modifyHead (line ++ ·)).map lineText) := by
  induction strokes generalizing t front line with
  | nil => simp [lines, h.text]
  | cons stroke strokes ih =>
    cases stroke with
    | write s =>
      have hlevel : (t.append s).level = t.level := by
        unfold Indented.append
        split_ifs <;> rfl
      rw [performAll_cons, perform, ih (h.write s), hlevel, lines, List.modifyHead_modifyHead]
      simp [Function.comp_def]
    | endLine =>
      have hlevel : t.appendEmptyLine.level = t.level := rfl
      have hid : (lines t.level strokes).modifyHead ([] ++ ·) = lines t.level strokes := by
        cases lines t.level strokes <;> rfl
      have hne : (lines t.level strokes).map lineText ≠ [] := by
        simpa using lines_ne_nil t.level strokes
      rw [performAll_cons, perform, ih h.endLine, hlevel, hid, lines, List.modifyHead_cons,
        List.append_nil, List.map_cons, String.intercalate_cons_of_ne_nil hne]
      simp only [String.append_assoc]
    | deeper => exact ih ⟨h.text, h.pending⟩
    | shallower => exact ih ⟨h.text, h.pending⟩

end On

/-- From the start of a line, strokes put their lines behind the text. -/
lemma text_performAll {t : Indented} (ht : t.pending = true) (strokes : List Stroke) :
    (performAll strokes t).text =
      t.text ++ "\n".intercalate ((lines t.level strokes).map lineText) := by
  have hstart : On t t.text [] := ⟨by simp, by simpa using ht⟩
  have hid : (lines t.level strokes).modifyHead ([] ++ ·) = lines t.level strokes := by
    cases lines t.level strokes <;> rfl
  rw [hstart.text_performAll, hid]

/-! ### Levels -/

/-- How far a stroke rises. -/
def rise : Stroke → Int
  | deeper => 1
  | shallower => -1
  | _ => 0

/-- How far strokes rise together. -/
def riseAll (strokes : List Stroke) : Int := (strokes.map rise).sum

@[simp] lemma riseAll_nil : riseAll [] = 0 := rfl

@[simp] lemma riseAll_append (strokes strokes' : List Stroke) :
    riseAll (strokes ++ strokes') = riseAll strokes + riseAll strokes' := by
  simp [riseAll]

/-- A stroke rises as far as it says, except that it does not fall below zero. -/
lemma level_perform (stroke : Stroke) (t : Indented) :
    ((stroke.perform t).level : Int) = max 0 (t.level + stroke.rise) := by
  cases stroke with
  | write s =>
    have hlevel : (t.append s).level = t.level := by
      unfold Indented.append
      split_ifs <;> rfl
    simp [perform, rise, hlevel]
  | endLine => simp [perform, rise, Indented.appendEmptyLine]
  | deeper =>
    simp only [perform, rise, Indented.increment]
    omega
  | shallower =>
    simp only [perform, rise, Indented.decrement]
    omega

/-- The level is the greatest rise over a last stretch of the strokes. -/
lemma isGreatest_level (strokes : List Stroke) :
    IsGreatest {rise | ∃ stretch, stretch <:+ strokes ∧ rise = riseAll stretch}
      ((performAll strokes .blank).level : Int) := by
  induction strokes using List.reverseRecOn with
  | nil =>
    refine ⟨⟨[], List.suffix_rfl, rfl⟩, ?_⟩
    rintro _ ⟨stretch, hs, rfl⟩
    rw [List.suffix_nil.mp hs]
    rfl
  | append_singleton strokes stroke ih =>
    have hlevel : ((performAll (strokes ++ [stroke]) .blank).level : Int) =
        max 0 ((performAll strokes .blank).level + stroke.rise) := by
      rw [performAll_append, performAll_cons, performAll_nil, level_perform]
    obtain ⟨⟨stretch, hs, hrise⟩, hmax⟩ := ih
    rw [hlevel]
    constructor
    · rcases max_choice (0 : Int) ((performAll strokes .blank).level + stroke.rise) with h | h
      · exact ⟨[], List.nil_suffix, h⟩
      · refine ⟨stretch ++ [stroke], List.suffix_concat_iff.mpr (Or.inr ⟨stretch, rfl, hs⟩), ?_⟩
        rw [h, hrise, riseAll_append]
        simp [riseAll]
    · rintro _ ⟨stretch', hs', rfl⟩
      rcases List.suffix_concat_iff.mp hs' with rfl | ⟨front, rfl, hfront⟩
      · exact le_max_left _ _
      · refine le_trans ?_ (le_max_right _ _)
        have hle := hmax ⟨front, hfront, rfl⟩
        simpa [riseAll] using hle

end Stroke

open Stroke (performAll performAll_append performAll_cons performAll_nil lineText riseAll)

/-! ### Lines of a text -/

namespace Indented

/-- A line without the carriage return that it ends with. -/
def dropReturn (line : List Char) : List Char :=
  if line.getLast? = some '\r' then line.dropLast else line

/-- The lines of what stands between line feeds. What a line feed ends is a line, without a carriage
return before it; what stands behind the last line feed is one if there is anything. -/
def linesOfPieces : List (List Char) → List (List Char)
  | [] => []
  | [rest] => if rest = [] then [] else [rest]
  | line :: next :: pieces => dropReturn line :: linesOfPieces (next :: pieces)

lemma dropReturn_cons {c : Char} {line : List Char} (h : c = '\r' → line ≠ []) :
    dropReturn (c :: line) = c :: dropReturn line := by
  cases line with
  | nil =>
    have hc : c ≠ '\r' := fun hc => h hc rfl
    simp [dropReturn, hc]
  | cons d line =>
    simp only [dropReturn, List.getLast?_cons_cons]
    split_ifs <;> rfl

lemma splitOn_cons (c : Char) (cs : List Char) :
    (c :: cs).splitOn '\n' =
      if c = '\n' then [] :: cs.splitOn '\n' else (cs.splitOn '\n').modifyHead (c :: ·) := by
  simp [List.splitOn_eq_splitOnP, List.splitOnP_cons_eq_if_modifyHead]

/-- A text with an empty line in front begins with its end. -/
lemma eq_cons_of_splitOn {cs next : List Char} {pieces : List (List Char)}
    (h : cs.splitOn '\n' = [] :: next :: pieces) : ∃ rest, cs = '\n' :: rest := by
  cases cs with
  | nil => simp [List.splitOn_eq_splitOnP] at h
  | cons c cs =>
    by_cases hc : c = '\n'
    · exact ⟨cs, by rw [hc]⟩
    · rw [splitOn_cons, if_neg hc] at h
      cases hcs : cs.splitOn '\n' with
      | nil => simp [hcs] at h
      | cons piece pieces => simp [hcs] at h

/-- The lines of a text are those of what stands between its line feeds. -/
lemma lines_eq (cs : List Char) : lines cs = linesOfPieces (cs.splitOn '\n') := by
  have hne (cs : List Char) : ∃ piece pieces, cs.splitOn '\n' = piece :: pieces :=
    List.exists_cons_of_ne_nil (by simp [List.splitOn_eq_splitOnP, List.splitOnP_ne_nil])
  fun_induction lines cs with
  | case1 => simp [List.splitOn_eq_splitOnP, linesOfPieces]
  | case2 cs ih =>
    obtain ⟨piece, pieces, hpieces⟩ := hne cs
    simp [splitOn_cons, hpieces, linesOfPieces, dropReturn, ih]
  | case3 cs ih =>
    obtain ⟨piece, pieces, hpieces⟩ := hne cs
    simp [splitOn_cons, hpieces, linesOfPieces, dropReturn, ih]
  | case4 c cs _ hc hl ih =>
    -- nothing follows, so the text is its last piece
    obtain ⟨piece, pieces, hpieces⟩ := hne cs
    rw [hl, hpieces] at ih
    rw [splitOn_cons, if_neg hc, hpieces, List.modifyHead_cons]
    cases pieces with
    | nil =>
      have hpiece : piece = [] := by
        by_contra hpiece
        simp [linesOfPieces, hpiece] at ih
      simp [linesOfPieces, hpiece]
    | cons next pieces => simp [linesOfPieces] at ih
  | case5 c cs hreturn hc l ls hl ih =>
    obtain ⟨piece, pieces, hpieces⟩ := hne cs
    rw [hl, hpieces] at ih
    rw [splitOn_cons, if_neg hc, hpieces, List.modifyHead_cons]
    cases pieces with
    | nil =>
      have hpiece : piece ≠ [] := by
        rintro rfl
        simp [linesOfPieces] at ih
      simp only [linesOfPieces, if_neg hpiece, List.cons.injEq] at ih
      simp [linesOfPieces, ih]
    | cons next pieces =>
      have hdrop : c = '\r' → piece ≠ [] := by
        rintro rfl rfl
        obtain ⟨rest, rfl⟩ := eq_cons_of_splitOn hpieces
        exact hreturn rest rfl rfl
      simp only [linesOfPieces, List.cons.injEq] at ih
      simp [linesOfPieces, dropReturn_cons hdrop, ih]

/-- No line of a text has a line feed in it. -/
lemma notMem_of_mem_lines {cs line : List Char} (h : line ∈ lines cs) : '\n' ∉ line := by
  fun_induction lines cs generalizing line with
  | case1 => cases h
  | case2 cs ih =>
    rcases List.mem_cons.mp h with rfl | h
    · exact List.not_mem_nil
    · exact ih h
  | case3 cs ih =>
    rcases List.mem_cons.mp h with rfl | h
    · exact List.not_mem_nil
    · exact ih h
  | case4 c cs _ hc hl ih =>
    rw [List.mem_singleton.mp h, List.mem_singleton]
    exact fun heq => hc heq.symm
  | case5 c cs _ hc l ls hl ih =>
    rcases List.mem_cons.mp h with rfl | h
    · rw [List.mem_cons, not_or]
      exact ⟨fun heq => hc heq.symm, ih (hl ▸ List.mem_cons_self)⟩
    · exact ih (hl ▸ List.mem_cons_of_mem _ h)

end Indented

/-! ### Strokes of a script -/

namespace TextStep

/-- The strokes of appended lines, or of one line that is empty where there are none. -/
def strokesOfLines : List (List Char) → List Stroke
  | [] => [.endLine]
  | line :: lines =>
    (line :: lines).flatMap fun line => [.write (String.ofList line), .endLine]

mutual

/-- What a step comes down to. -/
def strokes : TextStep → List Stroke
  | append s => [.write s]
  | appendLine s => [.write s, .endLine]
  | appendEmptyLine => [.endLine]
  | appendLines s => strokesOfLines (Indented.linesOfPieces (s.toList.splitOn '\n'))
  | increment => [.deeper]
  | decrement => [.shallower]
  | indent block => .deeper :: (strokesAll block ++ [.shallower])

/-- What steps come down to, one after the other. -/
def strokesAll : List TextStep → List Stroke
  | [] => []
  | step :: steps => step.strokes ++ strokesAll steps

end

mutual

/-- The texts that a step appends to one line. -/
def texts : TextStep → List String
  | append s => [s]
  | appendLine s => [s]
  | indent block => textsAll block
  | _ => []

/-- The texts that steps append to one line each. -/
def textsAll : List TextStep → List String
  | [] => []
  | step :: steps => step.texts ++ textsAll steps

end

/-- Appending lines is appending each of them, or an empty one where there are none. -/
lemma performAll_strokesOfLines (ls : List (List Char)) (t : Indented) :
    performAll (strokesOfLines ls) t = (t.appendJoined ls).appendEmptyLine := by
  cases ls with
  | nil => rfl
  | cons l ls =>
    simp only [strokesOfLines, Indented.appendJoined, List.flatMap_cons, performAll_append,
      performAll_cons, performAll_nil, Stroke.perform]
    generalize t.append (String.ofList l) = u
    induction ls generalizing u with
    | nil => rfl
    | cons l ls ih =>
      simp only [List.flatMap_cons, performAll_append, performAll_cons, performAll_nil,
        Stroke.perform, List.foldl_cons]
      exact ih _

lemma exists_of_write_mem_strokesOfLines {ls : List (List Char)} {s : String}
    (h : .write s ∈ strokesOfLines ls) : ∃ line ∈ ls, s = String.ofList line := by
  cases ls with
  | nil => simp [strokesOfLines] at h
  | cons l ls =>
    obtain ⟨line, hline, hs⟩ := List.mem_flatMap.mp h
    exact ⟨line, hline, by simpa using hs⟩

mutual

lemma run_eq_performAll : ∀ (step : TextStep) (t : Indented), step.run t = performAll step.strokes t
  | append _, _ => rfl
  | appendLine _, _ => rfl
  | appendEmptyLine, _ => rfl
  | appendLines s, t => by
    rw [strokes, performAll_strokesOfLines, ← Indented.lines_eq]
    rfl
  | increment, _ => rfl
  | decrement, _ => rfl
  | indent block, t => by
    simp only [run, Indented.indent, strokes, performAll_cons, performAll_append, performAll_nil,
      runAll_eq_performAll block, Stroke.perform]

/-- A script does what its strokes do. -/
lemma runAll_eq_performAll : ∀ (steps : List TextStep) (t : Indented),
    runAll steps t = performAll (strokesAll steps) t
  | [], _ => rfl
  | step :: steps, t => by
    rw [runAll, run_eq_performAll step, runAll_eq_performAll steps, strokesAll, performAll_append]

end

mutual

/-- Whatever a step writes stays on its line, if the texts do that it appends to one. -/
lemma notMem_of_write_mem_strokes : ∀ {step : TextStep} {s : String},
    (∀ t ∈ step.texts, '\n' ∉ t.toList) → .write s ∈ step.strokes → '\n' ∉ s.toList
  | append s, _, h, hs => by
    obtain rfl : _ = s := by simpa [strokes] using hs
    exact h _ List.mem_cons_self
  | appendLine s, _, h, hs => by
    obtain rfl : _ = s := by simpa [strokes] using hs
    exact h _ List.mem_cons_self
  | appendEmptyLine, _, _, hs => by simp [strokes] at hs
  | appendLines s, t, _, hs => by
    obtain ⟨line, hline, rfl⟩ := exists_of_write_mem_strokesOfLines hs
    rw [String.toList_ofList]
    exact Indented.notMem_of_mem_lines (Indented.lines_eq _ ▸ hline)
  | increment, _, _, hs => by simp [strokes] at hs
  | decrement, _, _, hs => by simp [strokes] at hs
  | indent block, _, h, hs => by
    rw [strokes, List.mem_cons, List.mem_append] at hs
    exact notMem_of_write_mem_strokesAll h (by simpa using hs)

lemma notMem_of_write_mem_strokesAll : ∀ {steps : List TextStep} {s : String},
    (∀ t ∈ textsAll steps, '\n' ∉ t.toList) → .write s ∈ strokesAll steps → '\n' ∉ s.toList
  | [], _, _, hs => by cases hs
  | step :: steps, s, h, hs => by
    rw [textsAll, List.forall_mem_append] at h
    rcases List.mem_append.mp hs with hs | hs
    · exact notMem_of_write_mem_strokes h.1 hs
    · exact notMem_of_write_mem_strokesAll h.2 hs

end

/-! ### What a script writes -/

/-- Where texts stay on their lines, the text of a script splits into them. -/
lemma splitOn_text_runAll {steps : List TextStep} (h : ∀ s ∈ textsAll steps, '\n' ∉ s.toList) :
    (runAll steps .blank).text.toList.splitOn '\n' =
      ((Stroke.lines 0 (strokesAll steps)).map lineText).map String.toList := by
  have hlines : ∀ line ∈ ((Stroke.lines 0 (strokesAll steps)).map lineText).map String.toList,
      '\n' ∉ line := by
    intro line hline
    rw [List.map_map] at hline
    obtain ⟨pieces, hpieces, rfl⟩ := List.mem_map.mp hline
    refine Stroke.notMem_lineText (by decide) fun p hp => ?_
    exact notMem_of_write_mem_strokesAll h (Stroke.write_mem_of_mem_lines hpieces hp)
  have hblank : (runAll steps .blank).text.toList =
      ['\n'].intercalate (((Stroke.lines 0 (strokesAll steps)).map lineText).map String.toList) := by
    rw [runAll_eq_performAll, Stroke.text_performAll rfl, String.toList_append,
      String.toList_intercalate]
    rfl
  rw [hblank]
  exact List.splitOn_intercalate '\n' hlines (by simp [Stroke.lines_ne_nil])

lemma performAll_map_appendLine (ls : List (List Char)) (t : Indented) :
    runAll (ls.map fun line => appendLine (String.ofList line)) t =
      performAll (ls.flatMap fun line => [.write (String.ofList line), .endLine]) t := by
  rw [runAll_eq_performAll]
  congr 1
  induction ls with
  | nil => rfl
  | cons l ls ih => rw [List.map_cons, strokesAll, ih]; rfl

/-- A script writes its lines, with a line feed between any two. A line on which only empty texts
were written is empty; any other begins with the margin of the level at which its first text was
written. Appending lines is appending each of them, and an empty one where there are none. The level
is the greatest rise over a last stretch of the script, and the size counts bytes. -/
theorem runAll_writes_lines (steps : List TextStep)
    (h : ∀ s ∈ textsAll steps, '\n' ∉ s.toList) :
    let t := runAll steps .blank
    let page := (Stroke.lines 0 (strokesAll steps)).map lineText
    t.text = "\n".intercalate page ∧
      t.text.toList.splitOn '\n' = page.map String.toList ∧
      IsGreatest {rise | ∃ stretch, stretch <:+ strokesAll steps ∧ rise = riseAll stretch}
        (t.level : Int) ∧
      t.size = Template.byteLength t.text.toList ∧
      ∀ (s : String) (u : Indented),
        (appendLines s).run u =
          match Indented.linesOfPieces (s.toList.splitOn '\n') with
          | [] => u.appendEmptyLine
          | ls => runAll (ls.map fun line => appendLine (String.ofList line)) u := by
  intro t page
  refine ⟨?_, splitOn_text_runAll h, ?_, (Template.byteLength_toList _).symm, fun s u => ?_⟩
  · simp only [t, page, runAll_eq_performAll]
    rw [Stroke.text_performAll rfl]
    exact String.empty_append
  · simp only [t, runAll_eq_performAll]
    exact Stroke.isGreatest_level _
  · rw [run_eq_performAll, strokes]
    cases Indented.linesOfPieces (s.toList.splitOn '\n') with
    | nil => rfl
    | cons line ls => exact (performAll_map_appendLine (line :: ls) u).symm

/-- A line is indented by the level at which it was begun, whatever happens to the level on it. -/
theorem runAll_writes_lines_nested :
    let steps : List TextStep :=
      [.append "", .indent [.append "a", .increment, .append "b", .appendLines "c\r\n\nd"],
        .decrement, .decrement, .append "e"]
    (∀ s ∈ textsAll steps, '\n' ∉ s.toList) ∧
      (runAll steps .blank).text.toList.splitOn '\n' =
        ["    abc".toList, [], "        d".toList, "e".toList] := by
  intro steps
  have h : ∀ s ∈ textsAll steps, '\n' ∉ s.toList := by decide
  obtain ⟨-, hlines, -⟩ := runAll_writes_lines steps h
  exact ⟨h, hlines.trans (by decide)⟩

end TextStep

end SqlCommands
