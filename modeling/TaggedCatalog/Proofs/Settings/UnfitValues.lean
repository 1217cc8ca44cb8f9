import TaggedCatalog.Proofs.Toml.ReadTables
import TaggedCatalog.Settings.Table

/-! # Values that do not fit

A table of settings may hold keys that nobody knows and values of the wrong kind. They
count as little as if they were not there: the table without them gives the same
settings, and of each of them there is one warning. -/

namespace TaggedCatalog.SettingsTable

open Toml

def textKeys : List String := ["format", "plugin_prefix", "marker", "output"]

def listKeys : List String := ["paths", "modules", "exclude"]

/-! ## The part that fits -/

/-- What is left of a value in the table of sources, which may hold other keys as well. -/
def fitSource? (key : String) (value : Value) : Option Value :=
  if key ∈ listKeys ∧ value.texts?.isNone then none else some value

/-- What is left of a value. -/
def fitValue? (key : String) (value : Value) : Option Value :=
  if key ∈ textKeys then value.text?.map .text
  else if key = "sources" then
    value.table?.map fun entries => .table (entries.filterValues fitSource?)
  else none

/-- A table without the keys and the values that do not fit. -/
def fitting (table : Table) : Table := table.filterValues fitValue?

/-- Why something in a table does not fit. -/
inductive Misfit where
  | unknownKey (key : String)
  | notText (key : String)
  | sourcesNotTable
  | notTexts (key : String)
deriving DecidableEq, Repr

namespace Misfit

def message (origin : String) : Misfit → String
  | unknownKey key => "Unknown config key " ++ Text.quoted key ++ " in " ++ origin
  | notText key => "Ignoring non-string value for " ++ Text.quoted key ++ " in " ++ origin
  | sourcesNotTable => "Ignoring malformed [sources] table in " ++ origin
  | notTexts key => "Ignoring non-list value for " ++ Text.quoted key ++ " in " ++ origin

def record (file : Option PathName) (misfit : Misfit) : Record :=
  warning (misfit.message (originText file))

end Misfit

def sourceMisfits (entry : String × Value) : List Misfit :=
  if entry.1 ∈ listKeys ∧ entry.2.texts?.isNone then [.notTexts entry.1] else []

def entryMisfits (entry : String × Value) : List Misfit :=
  if entry.1 ∈ textKeys then if entry.2.text?.isNone then [.notText entry.1] else []
  else if entry.1 = "sources" then
    entry.2.table?.elim [.sourcesNotTable] fun entries => entries.flatMap sourceMisfits
  else [.unknownKey entry.1]

/-- All that does not fit in a table, in the order of its keys. -/
def misfits (table : Table) : List Misfit := table.flatMap entryMisfits

/-! ## Values that are read -/

def sourcesIn (table : Table) : Table := ((table.get? "sources").bind Value.table?).getD []

section Values

variable (file : Option PathName) (table : Table) (key : String)

theorem value_textAt : (textAt file table key).value = (table.get? key).bind Value.text? := by
  rw [textAt]
  cases table.get? key with
  | none => rfl
  | some value => cases value <;> rfl

theorem value_textsAt :
    (textsAt file table key).value = ((table.get? key).bind Value.texts?).getD [] := by
  rw [textsAt]
  cases table.get? key with
  | none => rfl
  | some value =>
      simp only [Option.bind_some]
      cases value.texts? <;> rfl

theorem value_sourcesOf : (sourcesOf file table).value = sourcesIn table := by
  rw [sourcesOf, sourcesIn]
  cases table.get? "sources" with
  | none => rfl
  | some value => cases value <;> rfl

end Values

theorem value_layer (file : Option PathName) (table : Table) :
    (layer file table).value =
      { format := (textAt file table "format").value
        packageStart := (textAt file table "plugin_prefix").value
        marker := (textAt file table "marker").value
        output := (textAt file table "output").value.map (resolveOutput file)
        sourcePaths :=
          (textsAt file (sourcesOf file table).value "paths").value.map (resolve file)
        sourceModules := (textsAt file (sourcesOf file table).value "modules").value
        exclusions := (textsAt file (sourcesOf file table).value "exclude").value
        configFiles := file.toList } := rfl

theorem value_layer_congr (file : Option PathName) {table other : Table}
    (texts : ∀ key ∈ textKeys,
      (table.get? key).bind Value.text? = (other.get? key).bind Value.text?)
    (lists : ∀ key ∈ listKeys, ((sourcesIn table).get? key).bind Value.texts? =
      ((sourcesIn other).get? key).bind Value.texts?) :
    (layer file table).value = (layer file other).value := by
  have sameText : ∀ key ∈ textKeys,
      (textAt file table key).value = (textAt file other key).value := by
    intro key isKey
    rw [value_textAt, value_textAt, texts key isKey]
  have sameTexts : ∀ key ∈ listKeys,
      (textsAt file (sourcesOf file table).value key).value =
        (textsAt file (sourcesOf file other).value key).value := by
    intro key isKey
    rw [value_textsAt, value_textsAt, value_sourcesOf, value_sourcesOf, lists key isKey]
  simp only [textKeys, listKeys, List.forall_mem_cons] at sameText sameTexts
  rw [value_layer, value_layer]
  simp only [sameText, sameTexts]

section Fitting

variable {table : Table}

theorem text?_fitting (distinct : (table.map Prod.fst).Nodup) {key : String}
    (isKey : key ∈ textKeys) :
    ((fitting table).get? key).bind Value.text? = (table.get? key).bind Value.text? := by
  rw [fitting, Table.get?_filterValues distinct, Option.bind_assoc]
  congr 1
  funext value
  rw [fitValue?, if_pos isKey]
  cases value <;> rfl

theorem fitValue?_sources (value : Value) :
    fitValue? "sources" value =
      value.table?.map fun entries => .table (entries.filterValues fitSource?) := by
  rw [fitValue?, if_neg (by decide), if_pos rfl]

theorem sourcesIn_fitting (distinct : (table.map Prod.fst).Nodup) :
    sourcesIn (fitting table) = (sourcesIn table).filterValues fitSource? := by
  rw [sourcesIn, sourcesIn, fitting, Table.get?_filterValues distinct]
  cases table.get? "sources" with
  | none => rfl
  | some value =>
      rw [Option.bind_some, fitValue?_sources]
      cases value <;> rfl

theorem nodup_keys_sourcesIn (proper : Value.IsProper (.table table)) :
    ((sourcesIn table).map Prod.fst).Nodup := by
  rw [sourcesIn]
  cases found : (table.get? "sources").bind Value.table? with
  | none => exact List.nodup_nil
  | some entries =>
      rcases Option.bind_eq_some_iff.mp found with ⟨value, isThere, isTable⟩
      have properValue :=
        (Value.isProper_table_iff.mp proper).2 _ (Table.mem_of_get?_eq_some isThere)
      cases properValue with
      | table distinct _ =>
          cases isTable
          exact distinct
      | _ => cases isTable

theorem texts?_filterValues (distinct : (table.map Prod.fst).Nodup) {key : String}
    (isKey : key ∈ listKeys) :
    ((table.filterValues fitSource?).get? key).bind Value.texts? =
      (table.get? key).bind Value.texts? := by
  rw [Table.get?_filterValues distinct, Option.bind_assoc]
  congr 1
  funext value
  rw [fitSource?]
  cases texts : value.texts? with
  | none => simp [isKey]
  | some found => simpa using texts

theorem value_layer_fitting (file : Option PathName) (proper : Value.IsProper (.table table)) :
    (layer file (fitting table)).value = (layer file table).value := by
  have distinct := (Value.isProper_table_iff.mp proper).1
  apply value_layer_congr
  · intro key isKey
    exact text?_fitting distinct isKey
  · intro key isKey
    rw [sourcesIn_fitting distinct, texts?_filterValues (nodup_keys_sourcesIn proper) isKey]

end Fitting

/-! ## Warnings -/

theorem records_layer (file : Option PathName) (table : Table) :
    (layer file table).records =
      unknownKeyRecords file table ++
          (textKeys.flatMap fun key => (textAt file table key).records) ++
        ((sourcesOf file table).records ++
          listKeys.flatMap fun key => (textsAt file (sourcesIn table) key).records) := by
  have inOrder : (layer file table).records =
      unknownKeyRecords file table ++ ((textAt file table "format").records ++
        ((textAt file table "plugin_prefix").records ++ ((textAt file table "marker").records ++
          ((textAt file table "output").records ++ ((sourcesOf file table).records ++
            ((textsAt file (sourcesOf file table).value "paths").records ++
              ((textsAt file (sourcesOf file table).value "modules").records ++
                ((textsAt file (sourcesOf file table).value "exclude").records ++ [])))))))) := rfl
  -- Regrouped for any records, so that nothing is unfolded on the way.
  have regroup (unknown sources : List Record) (text list : String → List Record) :
      unknown ++ (text "format" ++ (text "plugin_prefix" ++ (text "marker" ++ (text "output" ++
        (sources ++ (list "paths" ++ (list "modules" ++ (list "exclude" ++ [])))))))) =
      unknown ++ textKeys.flatMap text ++ (sources ++ listKeys.flatMap list) := by
    simp [textKeys, listKeys]
  rw [inOrder, value_sourcesOf]
  exact regroup (unknownKeyRecords file table) (sourcesOf file table).records
    (fun key => (textAt file table key).records)
    (fun key => (textsAt file (sourcesIn table) key).records)

theorem entryMisfits_unknown {entry : String × Value} (notKnown : entry.1 ∉ knownKeys) :
    entryMisfits entry = [.unknownKey entry.1] := by
  have parts : entry.1 ∉ textKeys ∧ entry.1 ∉ ["sources"] := by
    rwa [show knownKeys = textKeys ++ ["sources"] from rfl, List.mem_append, not_or] at notKnown
  rw [entryMisfits, if_neg parts.1, if_neg fun same => parts.2 (List.mem_singleton.mpr same)]

theorem entryMisfits_sources (value : Value) :
    entryMisfits ("sources", value) =
      value.table?.elim [.sourcesNotTable] fun entries => entries.flatMap sourceMisfits := by
  have notText : "sources" ∉ textKeys := by decide
  rw [entryMisfits, if_neg notText, if_pos rfl]

section Records

variable (file : Option PathName) {table : Table}

theorem records_unknownKeys :
    unknownKeyRecords file table =
      ((table.filter fun entry => !knownKeys.contains entry.1).flatMap entryMisfits).map
        (Misfit.record file) := by
  rw [unknownKeyRecords, List.map_flatMap, List.map_eq_flatMap]
  apply List.flatMap_congr
  intro entry unknown
  have notKnown : entry.1 ∉ knownKeys := by simpa using (List.mem_filter.mp unknown).2
  rw [entryMisfits_unknown notKnown]
  rfl

theorem records_textAt (proper : Value.IsProper (.table table)) {key : String}
    (isKey : key ∈ textKeys) :
    (textAt file table key).records =
      ((table.get? key).elim [] fun value => entryMisfits (key, value)).map
        (Misfit.record file) := by
  rw [textAt]
  cases found : table.get? key with
  | none => rfl
  | some value =>
      have properValue :=
        (Value.isProper_table_iff.mp proper).2 _ (Table.mem_of_get?_eq_some found)
      rw [Option.elim_some, entryMisfits, if_pos isKey]
      cases properValue <;> rfl

theorem records_textsAt {key : String} (isKey : key ∈ listKeys) :
    (textsAt file table key).records =
      ((table.get? key).elim [] fun value => sourceMisfits (key, value)).map
        (Misfit.record file) := by
  rw [textsAt]
  cases table.get? key with
  | none => rfl
  | some value =>
      rw [Option.elim_some, sourceMisfits]
      dsimp only
      cases value.texts? with
      | none =>
          rw [if_pos ⟨isKey, rfl⟩]
          rfl
      | some found =>
          rw [if_neg (by simp)]
          rfl

theorem records_lists (distinct : (table.map Prod.fst).Nodup) :
    (listKeys.flatMap fun key => (textsAt file table key).records).Perm
      ((table.flatMap sourceMisfits).map (Misfit.record file)) := by
  have others :
      (table.filter fun entry => !listKeys.contains entry.1).flatMap sourceMisfits = [] := by
    rw [List.flatMap_eq_nil_iff]
    intro entry member
    have notKey : entry.1 ∉ listKeys := by simpa using (List.mem_filter.mp member).2
    rw [sourceMisfits, if_neg fun both => notKey both.1]
  have byKey := Table.flatMap_perm_entriesAt distinct (show listKeys.Nodup by decide) sourceMisfits
  rw [others, List.nil_append, Table.flatMap_entriesAt] at byKey
  have inOrder : (listKeys.flatMap fun key => (textsAt file table key).records) =
      (listKeys.flatMap fun key => (table.get? key).elim [] fun value =>
        sourceMisfits (key, value)).map (Misfit.record file) := by
    rw [List.map_flatMap]
    exact List.flatMap_congr fun key isKey => records_textsAt file isKey
  rw [inOrder]
  exact (byKey.map _).symm

theorem records_sourcesOf :
    (sourcesOf file table).records = (table.get? "sources").elim [] fun value =>
      value.table?.elim [Misfit.record file .sourcesNotTable] fun _ => [] := by
  rw [sourcesOf]
  cases table.get? "sources" with
  | none => rfl
  | some value => cases value <;> rfl

theorem records_sources (proper : Value.IsProper (.table table)) :
    ((sourcesOf file table).records ++
        listKeys.flatMap fun key => (textsAt file (sourcesIn table) key).records).Perm
      (((table.get? "sources").elim [] fun value => entryMisfits ("sources", value)).map
        (Misfit.record file)) := by
  have lists := records_lists file (nodup_keys_sourcesIn proper)
  rw [records_sourcesOf]
  cases found : table.get? "sources" with
  | none =>
      have noSources : sourcesIn table = [] := by
        rw [sourcesIn, found]
        rfl
      rw [noSources, List.flatMap_nil] at lists
      rw [noSources, Option.elim_none, Option.elim_none, List.nil_append]
      exact lists
  | some value =>
      have isSources : sourcesIn table = value.table?.getD [] := by
        rw [sourcesIn, found, Option.bind_some]
      rw [isSources] at lists
      rw [isSources, Option.elim_some, Option.elim_some, entryMisfits_sources]
      cases isTable : value.table? with
      | none =>
          rw [isTable, Option.getD_none, List.flatMap_nil] at lists
          rw [Option.getD_none, Option.elim_none, Option.elim_none, List.singleton_append]
          exact lists.cons _
      | some entries =>
          rw [isTable, Option.getD_some] at lists
          rw [Option.getD_some, Option.elim_some, Option.elim_some, List.nil_append]
          exact lists

theorem records_layer_perm (proper : Value.IsProper (.table table)) :
    (layer file table).records.Perm ((misfits table).map (Misfit.record file)) := by
  have byKey := Table.flatMap_perm_entriesAt (Value.isProper_table_iff.mp proper).1
    (show knownKeys.Nodup by decide) entryMisfits
  rw [Table.flatMap_entriesAt, show knownKeys = textKeys ++ ["sources"] from rfl,
    List.flatMap_append, List.flatMap_singleton, ← List.append_assoc] at byKey
  have texts : (textKeys.flatMap fun key => (textAt file table key).records) =
      (textKeys.flatMap fun key => (table.get? key).elim [] fun value =>
        entryMisfits (key, value)).map (Misfit.record file) := by
    rw [List.map_flatMap]
    exact List.flatMap_congr fun key isKey => records_textAt file proper isKey
  refine List.Perm.trans ?_ (byKey.map (Misfit.record file)).symm
  rw [records_layer, records_unknownKeys, texts, List.map_append, List.map_append]
  exact (records_sources file proper).append_left _

end Records

/-! ## Nothing more to remove -/

section Removal

variable {table : Table}

theorem eq_of_fitSource? {key : String} {old value : Value}
    (fits : fitSource? key old = some value) :
    value = old ∧ sourceMisfits (key, value) = [] := by
  rw [fitSource?] at fits
  split at fits
  · cases fits
  · rename_i notUnfit
    cases fits
    exact ⟨rfl, if_neg notUnfit⟩

theorem entryMisfits_of_fitValue? {key : String} {old value : Value}
    (fits : fitValue? key old = some value) : entryMisfits (key, value) = [] := by
  rw [fitValue?] at fits
  split at fits
  · rename_i isText
    rcases Option.map_eq_some_iff.mp fits with ⟨text, -, rfl⟩
    rw [entryMisfits, if_pos isText]
    rfl
  · split at fits
    · rename_i isSources
      rcases Option.map_eq_some_iff.mp fits with ⟨entries, -, rfl⟩
      rw [isSources, entryMisfits_sources]
      apply List.flatMap_eq_nil_iff.mpr
      rintro ⟨key, value⟩ member
      rcases Table.mem_filterValues_iff.mp member with ⟨old, -, fits⟩
      exact (eq_of_fitSource? fits).2
    · cases fits

theorem misfits_fitting (table : Table) : misfits (fitting table) = [] := by
  apply List.flatMap_eq_nil_iff.mpr
  rintro ⟨key, value⟩ member
  rcases Table.mem_filterValues_iff.mp member with ⟨old, -, fits⟩
  exact entryMisfits_of_fitValue? fits

theorem isProper_of_fitValue? {key : String} {old value : Value} (proper : old.IsProper)
    (fits : fitValue? key old = some value) : value.IsProper := by
  rw [fitValue?] at fits
  split at fits
  · rcases Option.map_eq_some_iff.mp fits with ⟨text, -, rfl⟩
    exact .text text
  · split at fits
    · rcases Option.map_eq_some_iff.mp fits with ⟨entries, isTable, rfl⟩
      cases proper with
      | table distinct each =>
          cases isTable
          apply Value.IsProper.table (Table.nodup_keys_filterValues distinct fitSource?)
          rintro ⟨key, value⟩ member
          rcases Table.mem_filterValues_iff.mp member with ⟨old, isThere, fits⟩
          rw [(eq_of_fitSource? fits).1]
          exact each _ isThere
      | _ => cases isTable
    · cases fits

theorem isProper_fitting (proper : Value.IsProper (.table table)) :
    Value.IsProper (.table (fitting table)) := by
  rcases Value.isProper_table_iff.mp proper with ⟨distinct, each⟩
  apply Value.IsProper.table (Table.nodup_keys_filterValues distinct fitValue?)
  rintro ⟨key, value⟩ member
  rcases Table.mem_filterValues_iff.mp member with ⟨old, isThere, fits⟩
  exact isProper_of_fitValue? (each _ isThere) fits

theorem records_layer_fitting (file : Option PathName) (proper : Value.IsProper (.table table)) :
    (layer file (fitting table)).records = [] := by
  have written := records_layer_perm file (isProper_fitting proper)
  rw [misfits_fitting] at written
  exact written.eq_nil

end Removal

/-! ## Each removed thing has its warning -/

/-- The number of entries in a table and in its table of sources. -/
def partCount (table : Table) : Nat :=
  (table.map fun entry =>
    1 + if entry.1 = "sources" then (entry.2.table?.getD []).length else 0).sum

theorem length_filterValues_fitSource? (entries : Table) :
    entries.length =
      (entries.filterValues fitSource?).length + (entries.flatMap sourceMisfits).length := by
  have each (entry : String × Value) :
      1 = ((fitSource? entry.1 entry.2).elim 0 fun _ => 1) + (sourceMisfits entry).length := by
    rw [fitSource?, sourceMisfits]
    split <;> rfl
  have counted := Table.sum_filterValues each entries
  simpa [List.length_flatMap] using counted

theorem partCount_fitting (table : Table) :
    partCount table = partCount (fitting table) + (misfits table).length := by
  rw [misfits, List.length_flatMap]
  apply Table.sum_filterValues
  rintro ⟨key, value⟩
  by_cases isText : key ∈ textKeys
  · have notSources : key ≠ "sources" := by
      rintro rfl
      revert isText
      decide
    simp only [fitValue?, entryMisfits, if_pos isText, if_neg notSources]
    cases value.text? <;> rfl
  · by_cases isSources : key = "sources"
    · subst isSources
      rw [fitValue?_sources, entryMisfits_sources]
      cases value with
      | table entries =>
          have counted := length_filterValues_fitSource? entries
          rw [Value.table?, Option.map_some, Option.elim_some, Option.elim_some, if_pos rfl,
            if_pos rfl, Option.getD_some, Value.table?, Option.getD_some]
          omega
      | _ => rfl
    · simp only [fitValue?, entryMisfits, if_neg isText, if_neg isSources]
      rfl

/-! ## Unfit values and missing ones -/

/-- The settings with a table over the defaults and under a command line. -/
def settled (file : Option PathName) (table : Table) (arguments : SettingsArguments) : Settings :=
  ((defaultLayer.merge (layer file table).value).applyArguments arguments).settle

/-- Unfit values count as missing ones: without them the settings are the same. There is
one warning for each of them, as many as things are missing then, and no other. -/
theorem layer_ignores_misfits (file : Option PathName) {table : Table}
    (proper : Value.IsProper (.table table)) :
    (∀ arguments, settled file table arguments = settled file (fitting table) arguments) ∧
      (layer file table).records.Perm ((misfits table).map (Misfit.record file)) ∧
      partCount table = partCount (fitting table) + (layer file table).records.length ∧
      (layer file (fitting table)).records = [] := by
  have written := records_layer_perm file proper
  refine ⟨?_, written, ?_, records_layer_fitting file proper⟩
  · intro arguments
    rw [settled, settled, value_layer_fitting file proper]
  · rw [written.length_eq, List.length_map]
    exact partCount_fitting table

/-- A number for the format, an unknown key, a list of paths with a number in it, and a
text for the list of exclusions. -/
def unfitDocument : String :=
  "format = 3\nmarker = \"tag\"\nverbose = true\n[sources]\npaths = [\"src\", 1]\n" ++
    "modules = [\"tools\"]\nexclude = \"old\"\nextra = []\n"

theorem layer_ignores_misfits_of_document :
    ∃ table : Table, read unfitDocument = some table ∧
      misfits table =
        [.notText "format", .unknownKey "verbose", .notTexts "paths", .notTexts "exclude"] ∧
      (∀ arguments, settled none table arguments = settled none (fitting table) arguments) ∧
      (layer none table).records.length = 4 ∧ (layer none (fitting table)).records = [] := by
  have found : (read unfitDocument).map misfits =
      some [.notText "format", .unknownKey "verbose", .notTexts "paths", .notTexts "exclude"] := by
    decide +kernel
  rcases Option.map_eq_some_iff.mp found with ⟨table, isRead, isUnfit⟩
  rcases layer_ignores_misfits none (isProper_of_read isRead) with ⟨same, written, -, silent⟩
  refine ⟨table, isRead, isUnfit, same, ?_, silent⟩
  rw [written.length_eq, isUnfit, List.length_map]
  rfl

end TaggedCatalog.SettingsTable
