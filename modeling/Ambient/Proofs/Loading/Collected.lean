import Ambient.Loading

/-!
# What is collected from an input

Loading adds modules to a draft, and which modules it adds depends on the input alone.  So the
modules of an input can be told apart from any draft, and loading either adds all of them or fails
as they do.

## What is here

* `fileModules`, `inputModules` — the modules of a file, and of an input: those of a file, or of the
  JSON files below a directory.
* `Loads x result` — `x` adds the modules in `result`, or it fails as `result` does.
* `loads_file`, `loads_found` — loading one file and several; `loads_input` — loading any input.
-/

set_option autoImplicit false

namespace Ambient

/-! ## Modules of files -/

/-- The modules of the file at a path, given what lies there. -/
def fileModules (path : String) (source : Except FileError FileTree) :
    Except Failure (List Module) :=
  match source.bind FileTree.readText with
  | .error e => .error (.file path e)
  | .ok text => modulesOf path text

/-- The modules of a JSON file that has been found below a directory. -/
def foundModules (f : String × ByteArray) : Except Failure (List Module) :=
  fileModules f.1 ((FilePath.check f.1).map fun _ => .file f.2)

/-- The modules of an input, given what lies there: those of all JSON files below a directory, one
after the other, or those of a file. -/
def inputModules (path : String) : Except FileError FileTree → Except Failure (List Module)
  | .ok (.directory entries) =>
    (((FileTree.directory entries).jsonFiles path).mapM foundModules).map List.flatten
  | source => fileModules path source

/-! ## Loading -/

theorem add_nil (draft : Draft) : draft.add [] = draft := by
  rw [Draft.add, List.append_nil]

theorem add_add (draft : Draft) (ms more : List Module) :
    (draft.add ms).add more = draft.add (ms ++ more) := by
  rw [Draft.add, Draft.add, Draft.add, List.append_assoc]

/-- Two steps of a loading: the second starts where the first has ended, unless that has failed. -/
theorem run_bind_eq {x : Loading Unit} {draft added : Draft} {r : Except Failure Unit}
    (f : Unit → Loading Unit) (h : x.run draft = (r, added)) :
    (x >>= f).run draft =
      match r with
      | .ok u => (f u).run added
      | .error e => (.error e, added) := by
  rw [ExceptT.run_bind]
  show StateT.bind x.run _ draft = _
  simp only [StateT.bind, bind, h]
  cases r <;> rfl

/-- `x` adds the modules in `result` to any draft, or it fails as `result` does. -/
def Loads (x : Loading Unit) (result : Except Failure (List Module)) : Prop :=
  ∀ draft : Draft, ∃ added, x.run draft = (result.map fun _ => (), added) ∧
    ∀ ms, result = .ok ms → added = draft.add ms

/-- A file is read as a whole before any of its modules is added. -/
theorem run_file_eq (path : String) (source : Except FileError FileTree) (draft : Draft) :
    (Loading.file path source).run draft =
      match fileModules path source with
      | .ok ms => (.ok (), draft.add ms)
      | .error e => (.error e, draft) := by
  rw [Loading.file, fileModules]
  cases source.bind FileTree.readText with
  | error e => rfl
  | ok text =>
    dsimp only
    rw [Loading.document]
    cases modulesOf path text <;> rfl

theorem loads_file (path : String) (source : Except FileError FileTree) :
    Loads (Loading.file path source) (fileModules path source) := by
  intro draft
  rw [run_file_eq]
  cases fileModules path source with
  | error e => exact ⟨draft, rfl, fun ms h => by cases h⟩
  | ok ms => exact ⟨draft.add ms, rfl, fun more h => by cases h; rfl⟩

/-- What is loaded in two steps is loaded one after the other. -/
theorem Loads.seq {x y : Loading Unit} {first second : Except Failure (List Module)}
    (hx : Loads x first) (hy : Loads y second) :
    Loads (x >>= fun _ => y) (do return (← first) ++ (← second)) := by
  intro draft
  obtain ⟨added, hrun, hadded⟩ := hx draft
  rw [run_bind_eq _ hrun]
  cases first with
  | error e => exact ⟨added, rfl, fun ms h => by cases h⟩
  | ok ms =>
    obtain ⟨more, hrun2, hmore⟩ := hy added
    refine ⟨more, hrun2.trans ?_, fun all hall => ?_⟩
    · cases second <;> rfl
    · cases second with
      | error e => cases hall
      | ok others =>
        cases hall
        rw [hmore others rfl, hadded ms rfl, add_add]

/-- The files are loaded one after the other. -/
theorem loads_found (fs : List (String × ByteArray)) :
    Loads (fs.forM fun f => Loading.file f.1 ((FilePath.check f.1).map fun _ => .file f.2))
      ((fs.mapM foundModules).map List.flatten) := by
  induction fs with
  | nil => exact fun draft => ⟨draft, rfl, fun ms h => by cases h; exact (add_nil draft).symm⟩
  | cons f rest ih =>
    have hresult : (((f :: rest).mapM foundModules).map List.flatten)
        = do return (← foundModules f) ++ (← (rest.mapM foundModules).map List.flatten) := by
      rw [List.mapM_cons]
      cases foundModules f with
      | error e => rfl
      | ok ms => cases rest.mapM foundModules <;> rfl
    rw [hresult]
    exact (loads_file _ _).seq ih

/-- **Loading an input adds the modules of the input**, if all of them can be read. -/
theorem loads_input (path : String) (source : Except FileError FileTree) :
    Loads (if source.toOption.any FileTree.isDirectory then Loading.directory path source
      else Loading.file path source) (inputModules path source) := by
  cases source with
  | error e => exact loads_file path (.error e)
  | ok tree =>
    cases tree with
    | file content => exact loads_file path (.ok (.file content))
    | directory entries => exact loads_found _

end Ambient
