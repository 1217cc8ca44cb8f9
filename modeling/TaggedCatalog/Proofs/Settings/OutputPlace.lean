import TaggedCatalog.CommandLine.Run
import TaggedCatalog.Discovery.Exclusion
import TaggedCatalog.Proofs.FileTree.Delete
import TaggedCatalog.Proofs.PathName.WrittenPaths
import TaggedCatalog.Proofs.Settings.UnfitValues
import TaggedCatalog.Toml.Document

/-! # Where an output in a configuration file leads

An output in a configuration file is seen from the directory of the file, unless it is
a lone dash, which is standard output. What the other texts become is written down as a
path, and looked at again when the output is opened. So a text that becomes a lone dash
only then, seen from its directory, is taken for standard output as well. -/

namespace TaggedCatalog

namespace FileTree

/-- The place that a path leads to from a directory. -/
def locateFrom (tree : FileTree) (directory : Location) (path : PathName) :
    Except AccessProblem Location :=
  if path.names.any (·.toList.contains nullCharacter) then .error .nullCharacter
  else
    match path.root with
    | .relative => tree.follow directory path.names
    | _ => tree.follow [] path.names

/-- A joined path leads to where the second part leads from where the first one does. -/
theorem locate_join_eq_locateFrom {tree : FileTree} {base : PathName} {directory : Location}
    (found : tree.directoryAt? base = some directory) (path : PathName) :
    tree.locate (base.join path) = tree.locateFrom directory path := by
  rcases path with ⟨root, names⟩
  cases root with
  | relative =>
      rcases locate_of_directoryAt? found with ⟨led, isDirectory⟩
      rw [locate_eq] at led
      change tree.locate ⟨base.root, base.names ++ names⟩ = _
      rw [locate_eq, List.any_append, locateFrom]
      split at led
      case isTrue => cases led
      case isFalse free =>
        rw [Bool.not_eq_true] at free
        rw [free, Bool.false_or, follow_append led isDirectory names]
  | single => rfl
  | double => rfl

end FileTree

namespace SettingsTable

open Toml

/-! ## The text of an output -/

/-- A text that becomes a lone dash when it is seen from a directory: it is another way
to write the file of that name in the working directory, or the directory itself is
written so and the text leads nowhere else. -/
def BecomesDash (directory : PathName) (output : String) : Prop :=
  (directory = .ofText "." ∧ PathName.ofText output = .ofText standardOutput) ∨
    (directory = .ofText standardOutput ∧ PathName.ofText output = .ofText ".")

instance {directory : PathName} {output : String} : Decidable (BecomesDash directory output) :=
  inferInstanceAs (Decidable (_ ∨ _))

/-- What is written as an output leads, from a directory, to where the given text leads. -/
structure LeadsFrom (directory : PathName) (output written : String) : Prop where
  writes : ∀ (tree : FileTree) (bytes : List UInt8),
    tree.writeAt written bytes = tree.write (directory.joinText output) bytes
  place : ∀ (tree : FileTree) (place : Location), tree.directoryAt? directory = some place →
    tree.locate (.ofText written) = tree.locateFrom place (.ofText output)

theorem text_joinText_eq_standard_iff {directory : PathName} (named : directory.WellNamed)
    (output : String) :
    (directory.joinText output).text = standardOutput ↔ BecomesDash directory output := by
  have here : PathName.ofText "." = ⟨.relative, []⟩ := by decide +kernel
  have dash : PathName.ofText standardOutput = ⟨.relative, [standardOutput]⟩ := by decide +kernel
  rw [BecomesDash, here, dash, ← PathName.join_eq_single_iff, ← dash]
  have joined : (directory.joinText output).WellNamed :=
    named.join (PathName.wellNamed_ofText output)
  change _ ↔ directory.joinText output = _
  constructor
  · intro written
    rw [← written, PathName.ofText_text joined]
  · intro isDash
    rw [isDash]
    decide +kernel

theorem resolveOutput_eq_standard_iff {file : PathName} (named : file.WellNamed) (output : String) :
    resolveOutput (some file) output = standardOutput ↔
      output = standardOutput ∨ BecomesDash file.parent output := by
  rw [← text_joinText_eq_standard_iff named.parent, resolveOutput]
  split
  · rename_i isDash
    exact iff_of_true isDash (.inl isDash)
  · rename_i notDash
    exact (or_iff_right notDash).symm

theorem resolveOutput_ne_empty {file : PathName} (named : file.WellNamed) (output : String) :
    resolveOutput (some file) output ≠ "" := by
  rw [resolveOutput]
  split
  · rename_i standard
    rw [standard]
    decide
  · exact PathName.text_ne_empty (named.parent.join (PathName.wellNamed_ofText output))

theorem leadsFrom_resolveOutput {file : PathName} (named : file.WellNamed) {output : String}
    (notDash : output ≠ standardOutput) :
    LeadsFrom file.parent output (resolveOutput (some file) output) := by
  have joined : (file.parent.joinText output).WellNamed :=
    named.parent.join (PathName.wellNamed_ofText output)
  rw [resolveOutput, if_neg notDash]
  constructor
  · intro tree bytes
    exact tree.writeAt_text joined bytes
  · intro tree place found
    rw [PathName.ofText_text joined]
    exact FileTree.locate_join_eq_locateFrom found _

/-! ## The output of a layer -/

theorem output_layer {file : Option PathName} {table : Table} {output : String}
    (given : table.get? "output" = some (.text output)) :
    (layer file table).value.output = some (resolveOutput file output) := by
  have found : (textAt file table "output").value = some output := by
    rw [value_textAt, given]
    rfl
  rw [value_layer, found, Option.map_some]

/-- A text that is not empty is the output, if it is the last word about it. -/
theorem output_settle_applyArguments (layer : SettingsLayer) (arguments : SettingsArguments)
    {output : String} (said : arguments.output.or layer.output = some output)
    (filled : output ≠ "") : (layer.applyArguments arguments).settle.output = output := by
  have notEmpty : output.isEmpty = false := by simpa using filled
  rw [SettingsLayer.applyArguments, SettingsLayer.settle, SettingsLayer.merge]
  simp only [SettingsArguments.toLayer, said, SettingsLayer.nonempty?, Option.filter_some, notEmpty,
    Bool.not_false, if_true, Option.getD_some]

/-- The output in a configuration file is standard output for a lone dash and for what
becomes one, and nothing else is; any other text leads to where it leads from the
directory of the file. A text on the command line is taken as it is. -/
theorem layer_output_place (file output : String) (table : Table)
    (given : table.get? "output" = some (.text output)) :
    let path := PathName.ofText file
    let described := (layer (some path) table).value
    let settings (arguments : SettingsArguments) :=
      ((defaultLayer.merge described).applyArguments arguments).settle
    (described.output = some standardOutput ↔
      output = standardOutput ∨ BecomesDash path.parent output) ∧
    (∀ arguments : SettingsArguments, arguments.output = none →
      described.output = some (settings arguments).output ∧
      (output ≠ standardOutput → LeadsFrom path.parent output (settings arguments).output)) ∧
    (∀ arguments : SettingsArguments, arguments.output = some output → output ≠ "" →
      (settings arguments).output = output) := by
  intro path described settings
  have named : path.WellNamed := PathName.wellNamed_ofText file
  have isOutput : described.output = some (resolveOutput (some path) output) := output_layer given
  refine ⟨?_, ?_, ?_⟩
  · rw [isOutput, Option.some.injEq]
    exact resolveOutput_eq_standard_iff named output
  · intro arguments silent
    have settled : (settings arguments).output = resolveOutput (some path) output := by
      apply output_settle_applyArguments _ _ _ (resolveOutput_ne_empty named output)
      rw [silent, Option.none_or, SettingsLayer.merge, isOutput, Option.some_or]
    rw [isOutput, settled]
    exact ⟨rfl, leadsFrom_resolveOutput named⟩
  · intro arguments said filled
    exact output_settle_applyArguments _ _ (by rw [said, Option.some_or]) filled

/-- Seen from a directory below the working directory, a dash behind a dot is a file. -/
theorem layer_output_place_below :
    let path := PathName.ofText "conf/cmdcatalog.toml"
    let table : Table := [("output", .text "./-")]
    let described := (layer (some path) table).value
    let settings := ((defaultLayer.merge described).applyArguments {}).settle
    table.get? "output" = some (.text "./-") ∧ described.output ≠ some standardOutput ∧
      settings.output = "conf/-" ∧ LeadsFrom path.parent "./-" settings.output := by
  intro path table described settings
  have given : table.get? "output" = some (.text "./-") := rfl
  rcases layer_output_place "conf/cmdcatalog.toml" "./-" table given with
    ⟨standard_iff, settled, -⟩
  refine ⟨given, ?_, by decide +kernel, (settled {} rfl).2 (by decide)⟩
  rw [ne_eq, standard_iff]
  decide +kernel

/-- Seen from the working directory, a dash behind a dot is taken for standard output,
though on the command line it is a file. -/
theorem layer_output_taken_for_standard :
    let surroundings : Surroundings :=
      { tree :=
          { workingDirectory := ["work"]
            files :=
              [(["work", "cmdcatalog.toml"], { bytes := Text.encodeUtf8 "output = './-'" }),
               (["work", "src", "a.py"],
                 { bytes := Text.encodeUtf8 "@command('x')\nclass A:\n    pass\n" })]
            directories := [] }
        reader := Toml.read
        compile := Exclusion.compile
        lookup := .empty }
    let described := (layer (some (.ofText "cmdcatalog.toml")) [("output", .text "./-")]).value
    let inFile := CommandLine.run surroundings ["generate", "--config", "cmdcatalog.toml", "src"]
    let onLine := CommandLine.run surroundings ["generate", "--no-config", "-o", "./-", "src"]
    "./-" ≠ standardOutput ∧ described.output = some standardOutput ∧
      inFile.written.out ≠ "" ∧ inFile.tree = surroundings.tree ∧
      onLine.written.out = "" ∧ onLine.tree.file? ["work", "-"] =
        some { bytes := Text.encodeUtf8 inFile.written.out } := by
  decide +kernel

end SettingsTable

end TaggedCatalog
