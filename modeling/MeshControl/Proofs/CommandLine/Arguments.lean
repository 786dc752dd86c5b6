import Mathlib.Data.List.TakeWhile
import MeshControl.CommandLine.Run

/-!
# Command lines for passes over files

`AsksForPasses` says that arguments ask for passes over some files, with no patch file and no live cluster.
Every list of files whose names cannot be taken for options has such a command line
(`asksForPasses_translateLine`).
-/

namespace MeshControl.CommandLine

/-- The arguments ask for passes over some files, and neither they nor the environment name a patch file or a
live cluster. -/
def AsksForPasses (world : World) (format : Format) (arguments : List String) (paths : List String) : Prop :=
  parse (world.environment patchFileVariable) arguments = .ok ⟨format, .translate paths none none⟩

/-- The name of a format. -/
def Format.name : Format → String
  | .human => "human"
  | .json => "json"

/-- The plain command line for passes over some files. -/
def translateLine (format : Format) (paths : List String) : List String :=
  ["translate", "-o", format.name, "-f"] ++ paths

/-- A name of a file that is not taken for an option. -/
def IsPlainPath (path : String) : Prop := path ≠ "" ∧ looksLikeOption path = false

instance (path : String) : Decidable (IsPlainPath path) :=
  inferInstanceAs (Decidable (path ≠ "" ∧ looksLikeOption path = false))

variable {paths : List String}

/-- Names of files are stored in order. -/
theorem setAll_files (plain : ∀ path ∈ paths, IsPlainPath path) (values : Values) :
    setAll .translate .file values paths = .ok { values with files := values.files ++ paths } := by
  have stored : paths.foldlM (fun values value => values.set? .translate .file value) values =
      some { values with files := values.files ++ paths } := by
    induction paths generalizing values with
    | nil => simp
    | cons path paths inductionHypothesis =>
      rw [List.forall_mem_cons] at plain
      have first : values.set? .translate .file path =
          some { values with files := values.files ++ [path] } := by
        have named : path? path = Option.some path := if_neg (by simp [plain.1.1])
        rw [Values.set?, named]
        rfl
      rw [List.foldlM_cons, first]
      simpa using inductionHypothesis plain.2 { values with files := values.files ++ [path] }
  rw [setAll, stored]

/-- All plain names behind the option are its values. -/
theorem takeValues_files (plain : ∀ path ∈ paths, IsPlainPath path) :
    takeValues .translate .file paths = paths := by
  have taken : paths.takeWhile (fun argument => !looksLikeOption argument) = paths :=
    List.takeWhile_eq_self_iff.2 fun path member => by simp [(plain path member).2]
  simp [takeValues, taken]

/-- Reading the option for files reads all plain names behind it. -/
theorem readOptions_files (some : paths ≠ []) (plain : ∀ path ∈ paths, IsPlainPath path) (fuel : Nat)
    (values : Values) :
    readOptions .translate (fuel + 2) values ("-f" :: paths) =
      .ok ({ values with files := values.files ++ paths }, []) := by
  have option : optionOf? .translate "-f" = Option.some (.file, none) := by decide
  have isOption : (!looksLikeOption "-f" || decide ("-f" = "--")) = false := by decide
  have stored := setAll_files plain values
  have taken := takeValues_files plain
  have present : paths.isEmpty = false := by simpa using some
  unfold readOptions
  simp only [isOption, option, Flag.takesValue, taken, present, stored]
  simp only [Bool.false_eq_true, if_false, Bool.not_true, List.drop_length]
  rfl

/-- Reading the option for the format reads the name of a format in front of another option. -/
theorem readOptions_output (format : Format) (fuel : Nat) (paths : List String) :
    readOptions .translate (fuel + 1) {} ("-o" :: format.name :: "-f" :: paths) =
      readOptions .translate fuel { output := some format } ("-f" :: paths) := by
  cases format with
  | human => rfl
  | json => rfl

/-- Plain names of files in any number have a command line in each format. -/
theorem asksForPasses_translateLine (world : World) (unset : world.environment patchFileVariable = none)
    (format : Format) (some : paths ≠ []) (plain : ∀ path ∈ paths, IsPlainPath path) :
    AsksForPasses world format (translateLine format paths) paths := by
  have options : readOptions .translate (("-o" :: format.name :: "-f" :: paths).length + 1) {}
      ("-o" :: format.name :: "-f" :: paths) =
        .ok ({ output := Option.some format, files := paths }, []) := by
    rw [readOptions_output]
    exact readOptions_files some plain _ _
  have command : readCommand .translate ("-o" :: format.name :: "-f" :: paths) =
      .ok { output := Option.some format, files := paths } := by
    rw [readCommand, options]
    rfl
  have general : readOptions .general ((translateLine format paths).length + 1) {}
      (translateLine format paths) = .ok ({}, translateLine format paths) := rfl
  have present : paths.isEmpty = false := by simpa using some
  unfold AsksForPasses parse
  rw [unset, general]
  change (readCommand .translate ("-o" :: format.name :: "-f" :: paths)).bind _ = _
  rw [command]
  simp only [Except.bind, present]
  rfl

end MeshControl.CommandLine
