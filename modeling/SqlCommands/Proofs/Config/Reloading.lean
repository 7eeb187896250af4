import SqlCommands.Config.Folder
import SqlCommands.Proofs.Toml.Documents

/-!
# Configurations that are loaded again

A configuration that is saved reads as itself, whatever its strings hold: `ofToml?_toToml`. So on a
file system that keeps what is written, each later load of the file answers it, or the fault for
which it is not acceptable; the default never takes its place (`load_after_save`).
-/

namespace SqlCommands

open Toml (Entry)

namespace Config

/-! ### Text -/

/-- A configuration as the entries of its file. -/
def entries (c : Config) : List Entry :=
  [⟨"sensitive_data_logging", String.ofList (Toml.letters c.sensitiveDataLogging),
      .boolean c.sensitiveDataLogging⟩,
    ⟨"parameter_prefix", Toml.Text.print c.parameterPrefix, .string c.parameterPrefix⟩,
    ⟨"parameter_name_base", Toml.Text.print c.parameterNameBase, .string c.parameterNameBase⟩]

lemma toToml_eq (c : Config) : c.toToml = String.join (c.entries.map Entry.line) := by
  have hbool : (if c.sensitiveDataLogging then "true" else "false") =
      String.ofList (Toml.letters c.sensitiveDataLogging) := by
    cases c.sensitiveDataLogging <;> decide
  have hsensitive : "sensitive_data_logging = " = "sensitive_data_logging" ++ " = " := by
    decide +kernel
  have hprefix : "parameter_prefix = " = "parameter_prefix" ++ " = " := by decide +kernel
  have hbase : "parameter_name_base = " = "parameter_name_base" ++ " = " := by decide +kernel
  unfold toToml
  rw [hbool, hsensitive, hprefix, hbase]
  simp only [entries, List.map_cons, List.map_nil, Entry.line, String.join, List.foldl_cons,
    List.foldl_nil, String.append_assoc, String.empty_append]

lemma reads_of_mem_entries (c : Config) : ∀ e ∈ c.entries, e.Reads := by
  simp only [entries, List.forall_mem_cons, List.not_mem_nil, false_imp_iff, implies_true, and_true]
  exact ⟨Entry.reads_boolean (by decide +kernel) _, Entry.reads_string (by decide +kernel) _,
    Entry.reads_string (by decide +kernel) _⟩

/-- A configuration is read as it was written. -/
theorem ofToml?_toToml (c : Config) : ofToml? c.toToml = some c := by
  have hkeys : (c.entries.map Entry.key).Nodup := by
    simp [entries]
  rw [ofToml?, toToml_eq, Toml.parse?_of_entries (reads_of_mem_entries c) hkeys]
  rfl

end Config

/-! ### Files that are kept -/

/-- Whether a file that was written exists and reads as what was written. -/
structure FileSystem.Keeps {φ : Type} (fs : FileSystem φ) : Prop where
  exists?_write {files : φ} {path text : String} (h : (fs.write files path text).1 = .ok ()) :
    fs.exists? (fs.write files path text).2 path = true
  read_write {files : φ} {path text : String} (h : (fs.write files path text).1 = .ok ()) :
    fs.read (fs.write files path text).2 path = .ok text

lemma fromUTF8?_toByteArray (s : String) : String.fromUTF8? s.toByteArray = some s :=
  dif_pos s.isValidUTF8

namespace Folder

variable {root path : String} {f : Folder} {text : String}

lemma exists_name_of_write (h : ((fileSystem root).write f path text).1 = .ok ()) :
    ∃ name, place root path = .file name ∧
      ((fileSystem root).write f path text).2 = f.put name text.toUTF8 := by
  cases hplace : place root path with
  | file name => exact ⟨name, rfl, by simp only [fileSystem, hplace]⟩
  | folder => simp [fileSystem, hplace] at h
  | nowhere => simp [fileSystem, hplace] at h

/-- A folder keeps its files. -/
lemma keeps (root : String) : (fileSystem root).Keeps where
  exists?_write h := by
    obtain ⟨name, hplace, hfiles⟩ := exists_name_of_write h
    rw [hfiles]
    simp [fileSystem, hplace]
  read_write h := by
    obtain ⟨name, hplace, hfiles⟩ := exists_name_of_write h
    rw [hfiles]
    simp [fileSystem, hplace, Folder.text, fromUTF8?_toByteArray]

end Folder

namespace Config

/-! ### Loading again -/

/-- What is done to a configuration file after it was saved. -/
inductive FileStep where
  | load
  | writeDefault

/-- What is answered to it. -/
inductive FileAnswer where
  | loaded (result : Except Error Config)
  | written (result : Except Error Unit)

section FileSystem

variable {φ : Type} (fs : FileSystem φ) (path : String)

/-- Do one thing to a file. -/
def FileStep.run (files : φ) : FileStep → FileAnswer × φ
  | load => (.loaded (Config.load fs files path), files)
  | writeDefault =>
    let (result, files) := Config.writeDefault fs files path
    (.written result, files)

/-- Do one thing after the other. -/
def FileStep.runAll (files : φ) : List FileStep → List FileAnswer × φ
  | [] => ([], files)
  | step :: steps =>
    let (answer, files) := step.run fs path files
    let (answers, files) := runAll files steps
    (answer :: answers, files)

/-- The answers where loading has one result, and the default is not needed. -/
def FileStep.answer (result : Except Error Config) : FileStep → FileAnswer
  | load => .loaded result
  | writeDefault => .written (.ok ())

/-- Whether a file holds a configuration as it was saved. -/
structure Held (files : φ) (c : Config) : Prop where
  exists? : fs.exists? files path = true
  read : fs.read files path = .ok c.toToml

variable {fs path} {files : φ} {c : Config}

lemma Held.load_eq (h : Held fs path files c) :
    load fs files path = c.validate.map fun _ => c := by
  have hread : (fs.read files path).mapError (fileError "read" path) = .ok c.toToml := by
    rw [h.read]
    rfl
  rw [load, hread]
  simp only [bind, Except.bind, ofToml?_toToml]
  cases c.validate <;> rfl

/-- Nothing happens to a file that is there. -/
lemma Held.run_eq (h : Held fs path files c) (step : FileStep) :
    step.run fs path files = (step.answer (c.validate.map fun _ => c), files) := by
  cases step with
  | load => rw [FileStep.run, h.load_eq]; rfl
  | writeDefault => simp [FileStep.run, writeDefault, h.exists?, FileStep.answer]

lemma Held.runAll_eq (h : Held fs path files c) (steps : List FileStep) :
    FileStep.runAll fs path files steps =
      (steps.map (FileStep.answer (c.validate.map fun _ => c)), files) := by
  induction steps with
  | nil => rfl
  | cons step steps ih => simp only [FileStep.runAll, h.run_eq, ih, List.map_cons]

/-- A configuration is saved whether it is acceptable or not. Whatever its strings hold, each later
load answers it if it is acceptable, and says what is wrong with it if it is not. -/
theorem load_after_save (hfs : fs.Keeps) (hw : (fs.write files path c.toToml).1 = .ok ())
    (steps : List FileStep) :
    let saved := save fs files path c
    let ran := FileStep.runAll fs path saved.2 steps
    saved.1 = .ok () ∧ ran.2 = saved.2 ∧
      (c.validate = .ok () → ran.1 = steps.map (FileStep.answer (.ok c))) ∧
      ∀ e, c.validate = .error e →
        (∃ f : Fault, e = .config f.message) ∧ ran.1 = steps.map (FileStep.answer (.error e)) := by
  intro saved ran
  have hheld : Held fs path saved.2 c := ⟨hfs.exists?_write hw, hfs.read_write hw⟩
  have hran : ran = (steps.map (FileStep.answer (c.validate.map fun _ => c)), saved.2) :=
    hheld.runAll_eq steps
  refine ⟨?_, congrArg Prod.snd hran, fun hvalid => ?_, fun e he => ⟨?_, ?_⟩⟩
  · have hsaved : saved.1 = (fs.write files path c.toToml).1.mapError (fileError "write" path) :=
      rfl
    rw [hsaved, hw]
    rfl
  · rw [hran, hvalid]
    rfl
  · unfold validate at he
    split at he
    · cases he
    next f _ => exact ⟨f, (Except.error.inj he).symm⟩
  · rw [hran, he]
    rfl

end FileSystem

lemma place_one_name : Folder.place "/a/" "/a/c" = .file "c" := by
  have hsplit : "c".splitOn "/" = ["c"] := by
    rw [String.splitOn, if_neg (by decide), String.splitOnAux, if_neg (by decide +kernel),
      if_neg (by decide +kernel), String.splitOnAux, if_pos (by decide +kernel)]
    decide +kernel
  have hdrop : ("/a/c".drop "/a/".length).toString = "c" := by decide +kernel
  rw [Folder.place, if_neg (by decide +kernel), if_pos (by decide +kernel), hdrop, hsplit]
  decide +kernel

/-- Quotes of both kinds, a backslash, line ends and a control character come back from a file;
an empty prefix is saved and then refused. -/
theorem load_after_save_quoted :
    let fs := Folder.fileSystem "/a/"
    let c : Config :=
      { parameterPrefix := "\"\"\"\'\'\'\\\r\n\x01", parameterNameBase := "_" }
    let refused : Config := { parameterPrefix := "" }
    (save fs {} "/a/c" c).1 = .ok () ∧
      (FileStep.runAll fs "/a/c" (save fs {} "/a/c" c).2 [.load, .writeDefault, .load]).1 =
        [.loaded (.ok c), .written (.ok ()), .loaded (.ok c)] ∧
      (save fs {} "/a/c" refused).1 = .ok () ∧
      (FileStep.runAll fs "/a/c" (save fs {} "/a/c" refused).2 [.load]).1 =
        [.loaded (.error (.config "parameter_prefix cannot be empty"))] := by
  intro fs c refused
  have hw (c : Config) : (fs.write {} "/a/c" c.toToml).1 = .ok () := by
    simp [fs, Folder.fileSystem, place_one_name]
  have hvalid : c.validate = .ok () := by
    have hfault : c.fault? = none := by decide +kernel
    rw [validate, hfault]
  have hrefused : refused.validate = .error (.config "parameter_prefix cannot be empty") := rfl
  obtain ⟨hsaved, -, hloaded, -⟩ :=
    load_after_save (Folder.keeps "/a/") (hw c) [.load, .writeDefault, .load]
  obtain ⟨hsaved', -, -, hloaded'⟩ :=
    load_after_save (Folder.keeps "/a/") (hw refused) [.load]
  exact ⟨hsaved, hloaded hvalid, hsaved', (hloaded' _ hrefused).2⟩

end Config

end SqlCommands
