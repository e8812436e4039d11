import Ambient.CommandLine.Run
import Ambient.Proofs.Files.Writing
import Ambient.Proofs.Loading.Collected

/-!
# All or nothing

The program reads its input, declares everything and makes the whole text before it writes anything.
So it asks its host at most twice, once for the input and once to put the whole text somewhere; and
in a file system it either writes the whole text to the one place that was asked for, or it leaves
the files and standard output alone.

## What is here

* `Arguments.configured a ms` — the draft with these modules that the options ask for, field by
  field; `load_eq` — loading ends with it.
* `runOn_of_read`, `write_of_output_some` — what the program asks of any host.
* `Outcome.Fails`, `Outcome.WritesFile`, `Outcome.Prints` — how the program ends in a file system.
* `run_of_read` — which of these it is, for all arguments that are accepted.
-/

set_option autoImplicit false

namespace Ambient

open Text

/-! ## The draft that is asked for -/

namespace Arguments

/-- The draft with these modules that the options ask for. -/
def configured (a : Arguments) (ms : List Module) : Draft where
  modules := ms
  header := a.header
  space := a.space.getD "Electron"
  specifier := "electron"
  terminator := ";"
  withPrelude := !a.noPrelude
  inheritance :=
    { Inheritance.usual with silent := (a.silent.map lowercase).reverse ++ Inheritance.usualSilent }
  types := a.mappings.foldl (fun types m => types.register m.1 m.2) TypeMap.builtin

theorem foldl_addSilent (names : List String) (draft : Draft) :
    names.foldl Draft.addSilent draft = { draft with inheritance := { draft.inheritance with
      silent := (names.map lowercase).reverse ++ draft.inheritance.silent } } := by
  induction names generalizing draft with
  | nil => rfl
  | cons name rest ih =>
    rw [List.foldl_cons, ih, Draft.addSilent, List.map_cons, List.reverse_cons, List.append_assoc]
    rfl

theorem foldl_registerType (mappings : List (String × String)) (draft : Draft) :
    mappings.foldl (fun d m => d.registerType m.1 m.2) draft = { draft with
      types := mappings.foldl (fun types m => types.register m.1 m.2) draft.types } := by
  induction mappings generalizing draft with
  | nil => rfl
  | cons m rest ih =>
    rw [List.foldl_cons, ih]
    rfl

/-- The options do what they say. -/
theorem add_draft (a : Arguments) (ms : List Module) : a.draft.add ms = a.configured ms := by
  rw [draft, foldl_registerType, foldl_addSilent]
  cases hspace : a.space <;> simp [configured, Draft.add, hspace, Inheritance.usual]

theorem load_of_run {a : Arguments} {source : Except FileError FileTree} {r : Except Failure Unit}
    {draft : Draft} (h : (if source.toOption.any FileTree.isDirectory then
      Loading.directory a.inputPath source else Loading.file a.inputPath source).run a.draft
        = (r, draft)) : a.load source = r.map fun _ => draft := by
  cases source with
  | error e =>
    rw [Except.toOption, Option.any_none] at h
    rw [load, h]
    cases r <;> rfl
  | ok tree =>
    rw [Except.toOption, Option.any_some] at h
    rw [load, h]
    cases r <;> rfl

/-- **Loading ends with the draft that is asked for.** -/
theorem load_eq (a : Arguments) (source : Except FileError FileTree) :
    a.load source = (inputModules a.inputPath source).map a.configured := by
  obtain ⟨draft, hrun, hdraft⟩ := loads_input a.inputPath source a.draft
  rw [load_of_run hrun]
  cases hms : inputModules a.inputPath source with
  | error e => rfl
  | ok ms =>
    rw [hdraft ms hms, add_draft]
    rfl

end Arguments

/-! ## How the program ends -/

namespace Outcome

/-- The program has failed: it has printed nothing on standard output, and all files are as they
were. -/
structure Fails (o : Outcome) (files : FileSystem) : Prop where
  code : o.code = 1
  stdout : o.stdout = ""
  files : o.files = files

/-- The program has written the text to the file at the path, and nothing anywhere else. -/
structure WritesFile (o : Outcome) (files : FileSystem) (path text : String) : Prop where
  code : o.code = 0
  stdout : o.stdout = ""
  written : o.files.find path >>= FileTree.readText = .ok text
  others : ∃ place last entries, files.IsTarget path place last entries ∧
    FileTree.IsReplaced (place.names ++ [last]) text.toUTF8 files.root o.files.root

/-- The program has written the text to standard output, and nothing anywhere else. -/
structure Prints (o : Outcome) (files : FileSystem) (text : String) : Prop where
  code : o.code = 0
  stdout : o.stdout = text
  files : o.files = files

end Outcome

/-! ## On any host -/

section

variable {draft : Draft}

theorem text_of_build_error {e : MissingName} (h : draft.build = .error e) :
    draft.text = .error e := by
  rw [Draft.text, Draft.lines, h]
  rfl

theorem exists_text_of_build {d : Declarations} (h : draft.build = .ok d) :
    ∃ text, draft.text = .ok text := by
  rw [Draft.text, Draft.lines, h]
  exact ⟨_, rfl⟩

end

section

variable {m : Type → Type} [Monad m] {arguments : List String} {a : Arguments}

/-- Once the arguments are understood, the program asks once what lies at the input path. -/
theorem runOn_of_read (host : Host m) (h : Arguments.read arguments = .ok a) :
    runOn host arguments = host.find a.inputPath >>= fun source =>
      match inputModules a.inputPath source with
      | .error e => return .failure ("loading metadata from " ++ a.inputPath) e
      | .ok ms => a.write (a.configured ms) host := by
  rw [runOn, h]
  dsimp only
  refine congrArg _ (funext fun source => ?_)
  rw [Arguments.load_eq]
  cases inputModules a.inputPath source <;> rfl

variable (host : Host m) {draft : Draft}

/-- The host is asked for nothing if the text is to be printed. -/
theorem write_of_output_none {text : String} (htext : draft.text = .ok text)
    (houtput : a.output = none) : a.write draft host = pure (.success text) := by
  rw [Arguments.write, houtput]
  dsimp only
  rw [htext]

variable [LawfulMonad m]

/-- The host is asked for nothing if something cannot be declared. -/
theorem write_of_build_error (a : Arguments) {e : MissingName} (h : draft.build = .error e) :
    ∃ context, a.write draft host = pure (.failure context (.missingName e)) := by
  rw [Arguments.write]
  cases a.output with
  | none =>
    dsimp only
    rw [text_of_build_error h]
    exact ⟨_, rfl⟩
  | some path =>
    dsimp only
    rw [Draft.writeOn, text_of_build_error h]
    exact ⟨_, pure_bind _ _⟩

/-- If there is a file for it, the host is asked once, to put the whole text there. -/
theorem write_of_output_some {text path : String} (htext : draft.text = .ok text)
    (houtput : a.output = some path) :
    a.write draft host = host.write path text.toUTF8 >>= fun
      | .ok () => return .success ""
      | .error e => return .failure ("writing " ++ path) (.file path e) := by
  rw [Arguments.write, houtput]
  dsimp only
  rw [Draft.writeOn, htext]
  dsimp only
  rw [bind_assoc]
  refine congrArg _ (funext fun written => ?_)
  rw [pure_bind]
  cases written <;> rfl

end

/-! ## On a file system -/

theorem eq_ok_of_toOption {ε α : Type} {x : Except ε α} {y : α} (h : x.toOption = some y) :
    x = .ok y := by
  cases x with
  | error e => cases h
  | ok z => rw [Option.some.inj h]

/-- A text reads as it was written. -/
theorem readText_toUTF8 (text : String) : (FileTree.file text.toUTF8).readText = .ok text := by
  have hvalid : text.toUTF8.IsValidUTF8 := text.isValidUTF8
  rw [FileTree.readText, String.fromUTF8?, dif_pos hvalid]
  rfl

section

variable {a : Arguments} {files : FileSystem} {draft : Draft} {context text path : String}

theorem fails_failure {f : Failure} : (Outcome.of (.failure context f, files)).Fails files :=
  ⟨rfl, rfl, rfl⟩

/-- If the text can be printed, it is. -/
theorem prints_write (htext : draft.text = .ok text) (houtput : a.output = none) :
    (Outcome.of ((a.write draft FileSystem.host).run files)).Prints files text := by
  rw [write_of_output_none FileSystem.host htext houtput]
  exact ⟨rfl, rfl, rfl⟩

theorem fails_write_of_build_error {e : MissingName} (h : draft.build = .error e) :
    (Outcome.of ((a.write draft FileSystem.host).run files)).Fails files := by
  obtain ⟨context, hwrite⟩ := write_of_build_error FileSystem.host a h
  rw [hwrite]
  exact fails_failure

theorem writesFile_write (htext : draft.text = .ok text) (houtput : a.output = some path)
    (hpath : files.IsWritable path) :
    (Outcome.of ((a.write draft FileSystem.host).run files)).WritesFile files path text := by
  obtain ⟨after, hafter⟩ := (files.exists_write_iff path text.toUTF8).2 hpath
  obtain ⟨hfind, hothers⟩ := FileSystem.written_of_write hafter
  rw [write_of_output_some FileSystem.host htext houtput, StateT.run_bind,
    FileSystem.run_write_of_ok hafter]
  refine ⟨rfl, rfl, ?_, hothers⟩
  show after.find path >>= FileTree.readText = _
  rw [hfind]
  exact readText_toUTF8 text

theorem fails_write_of_not_isWritable (htext : draft.text = .ok text)
    (houtput : a.output = some path) (hpath : ¬ files.IsWritable path) :
    (Outcome.of ((a.write draft FileSystem.host).run files)).Fails files := by
  cases hwrite : files.write path text.toUTF8 with
  | ok after => exact absurd ((files.exists_write_iff path _).1 ⟨after, hwrite⟩) hpath
  | error e =>
    rw [write_of_output_some FileSystem.host htext houtput, StateT.run_bind,
      FileSystem.run_write_of_error hwrite]
    exact fails_failure

end

/-- The program reads its input, and then goes on in the file system as it was. -/
theorem run_eq {arguments : List String} {a : Arguments} (h : Arguments.read arguments = .ok a)
    (files : FileSystem) :
    run arguments files = match inputModules a.inputPath (files.find a.inputPath) with
      | .error e => Outcome.of (.failure ("loading metadata from " ++ a.inputPath) e, files)
      | .ok ms => Outcome.of ((a.write (a.configured ms) FileSystem.host).run files) := by
  rw [run, runOn_of_read FileSystem.host h, StateT.run_bind, FileSystem.run_find, pure_bind]
  cases inputModules a.inputPath (files.find a.inputPath) <;> rfl

/-- **The program writes everything or nothing.**  If the input cannot be loaded, or what it
describes cannot be declared, the program fails with code 1, prints nothing and leaves all files as
they were.  If both can be done, it writes the text of the draft that the options ask for, with the
modules of the input: to standard output and to no file, or to the output file, if a file can be
written there, and to nothing else. -/
theorem run_of_read {arguments : List String} {a : Arguments}
    (h : Arguments.read arguments = .ok a) (files : FileSystem) :
    (∀ e, inputModules a.inputPath (files.find a.inputPath) = .error e →
      (run arguments files).Fails files) ∧
    ∀ ms, inputModules a.inputPath (files.find a.inputPath) = .ok ms →
      (∀ e, (a.configured ms).build = .error e → (run arguments files).Fails files) ∧
      ∀ d, (a.configured ms).build = .ok d → ∃ text, (a.configured ms).text = .ok text ∧
        (a.output = none → (run arguments files).Prints files text) ∧
        ∀ path, a.output = some path →
          (files.IsWritable path → (run arguments files).WritesFile files path text) ∧
          (¬ files.IsWritable path → (run arguments files).Fails files) := by
  refine ⟨fun e he => ?_, fun ms hms => ?_⟩
  · rw [run_eq h, he]
    exact fails_failure
  · rw [run_eq h, hms]
    refine ⟨fun e he => fails_write_of_build_error he, fun d hd => ?_⟩
    obtain ⟨text, htext⟩ := exists_text_of_build hd
    exact ⟨text, htext, fun hnone => prints_write htext hnone, fun path hpath =>
      ⟨fun hwritable => writesFile_write htext hpath hwritable,
        fun hnot => fails_write_of_not_isWritable htext hpath hnot⟩⟩

/-- A file of metadata, a directory in which a file of metadata breaks off, and declarations that
were written before. -/
def mixedFiles : FileSystem where
  root := .directory [
    ("app.json", .file "[[\"app\"]]".toUTF8),
    ("api", .directory [("broken.json", .file "[".toUTF8)]),
    ("old.d.ts", .file "declare var old: any;".toUTF8)]
  workingDirectory := []

/-- What is given to declare an input with a type mapped, in the place of what was written
before. -/
def mixedArguments (input : String) : Arguments where
  input := some input
  output := some "old.d.ts"
  mappings := [("Color", "string")]

/-- The file is declared in the place of the old declarations, and the directory leaves them
alone. -/
theorem run_of_read_mixed :
    Arguments.read ["app.json", "-o", "old.d.ts", "--map-type=Color=string"]
        = .ok (mixedArguments "app.json") ∧
      Arguments.read ["api", "-o", "old.d.ts", "--map-type=Color=string"]
        = .ok (mixedArguments "api") ∧
      (∃ text, (run ["app.json", "-o", "old.d.ts", "--map-type=Color=string"] mixedFiles).WritesFile
        mixedFiles "old.d.ts" text) ∧
      (run ["api", "-o", "old.d.ts", "--map-type=Color=string"] mixedFiles).Fails mixedFiles := by
  have hfile : Arguments.read ["app.json", "-o", "old.d.ts", "--map-type=Color=string"]
      = .ok (mixedArguments "app.json") := by decide +kernel
  have hdirectory : Arguments.read ["api", "-o", "old.d.ts", "--map-type=Color=string"]
      = .ok (mixedArguments "api") := by decide +kernel
  have hbuilds : ((inputModules "app.json" (mixedFiles.find "app.json")).toOption.bind fun ms =>
      ((mixedArguments "app.json").configured ms).build.toOption).isSome = true := by decide +kernel
  have hbroken : (inputModules "api" (mixedFiles.find "api")).toOption.isNone = true := by
    decide +kernel
  have hwritten : (mixedFiles.write "old.d.ts" "".toUTF8).toOption.isSome = true := by
    decide +kernel
  refine ⟨hfile, hdirectory, ?_, ?_⟩
  · obtain ⟨d, hd⟩ := Option.isSome_iff_exists.1 hbuilds
    obtain ⟨ms, hms, hd⟩ := Option.bind_eq_some_iff.1 hd
    obtain ⟨after, hafter⟩ := Option.isSome_iff_exists.1 hwritten
    obtain ⟨text, -, -, houtput⟩ := ((run_of_read hfile mixedFiles).2 ms
      (eq_ok_of_toOption hms)).2 d (eq_ok_of_toOption hd)
    exact ⟨text, (houtput _ rfl).1
      ((mixedFiles.exists_write_iff _ _).1 ⟨after, eq_ok_of_toOption hafter⟩)⟩
  · cases he : inputModules "api" (mixedFiles.find "api") with
    | ok ms =>
      rw [he] at hbroken
      cases hbroken
    | error e => exact (run_of_read hdirectory mixedFiles).1 e he

end Ambient
