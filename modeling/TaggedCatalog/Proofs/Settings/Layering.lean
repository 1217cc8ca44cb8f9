import TaggedCatalog.Settings.Layer

/-! # Layers taken together

Layers are merged in pairs, with the brackets anywhere. What comes out depends only on
the layers from the lowest to the topmost: the last word counts, lists of exclusions
and of configuration files add up, and layers without a word do not matter. Settings
that are settled halfway and go on as a layer come out the same as well. -/

namespace TaggedCatalog

namespace SettingsLayer

section LastWord

variable {α : Type}

/-- The word of the last layer that has one. -/
def lastSet (word : SettingsLayer → Option α) (layers : List SettingsLayer) : Option α :=
  layers.reverse.findSome? word

def filled? (list : List α) : Option (List α) := if list.isEmpty then none else some list

/-- The list of the last layer where it is not empty. -/
def lastFilled (list : SettingsLayer → List α) (layers : List SettingsLayer) : List α :=
  (lastSet (fun layer => filled? (list layer)) layers).getD []

theorem lastSet_append (word : SettingsLayer → Option α) (lower upper : List SettingsLayer) :
    lastSet word (lower ++ upper) = (lastSet word upper).or (lastSet word lower) := by
  rw [lastSet, List.reverse_append, List.findSome?_append]
  rfl

theorem isEmpty_of_lastSet_filled? {list : SettingsLayer → List α} {layers : List SettingsLayer}
    {found : List α} (last : lastSet (fun layer => filled? (list layer)) layers = some found) :
    found.isEmpty = false := by
  obtain ⟨layer, -, filled⟩ := List.exists_of_findSome?_eq_some last
  rw [filled?] at filled
  split at filled
  · cases filled
  · rename_i notEmpty
    cases filled
    simpa using notEmpty

theorem lastFilled_append (list : SettingsLayer → List α) (lower upper : List SettingsLayer) :
    lastFilled list (lower ++ upper) =
      preferNonempty (lastFilled list lower) (lastFilled list upper) := by
  rw [lastFilled, lastSet_append, lastFilled, lastFilled]
  cases last : lastSet (fun layer => filled? (list layer)) upper with
  | none => rfl
  | some found => simp [preferNonempty, isEmpty_of_lastSet_filled? last]

theorem lastSet_singleton (word : SettingsLayer → Option α) (layer : SettingsLayer) :
    lastSet word [layer] = word layer := by
  simp [lastSet]

theorem lastFilled_singleton (list : SettingsLayer → List α) (layer : SettingsLayer) :
    lastFilled list [layer] = list layer := by
  rw [lastFilled, lastSet_singleton, filled?]
  split
  · rename_i empty
    exact (List.isEmpty_iff.mp empty).symm
  · rfl

end LastWord

/-- What layers say together, the lowest first. -/
def together (layers : List SettingsLayer) : SettingsLayer where
  format := lastSet format layers
  packageStart := lastSet packageStart layers
  marker := lastSet marker layers
  output := lastSet output layers
  sourcePaths := lastFilled sourcePaths layers
  sourceModules := lastFilled sourceModules layers
  exclusions := layers.flatMap exclusions
  configFiles := layers.flatMap configFiles
  verbosity := lastSet verbosity layers

theorem together_append (lower upper : List SettingsLayer) :
    together (lower ++ upper) = (together lower).merge (together upper) := by
  simp only [together, merge, lastSet_append, lastFilled_append, List.flatMap_append]

theorem together_singleton (layer : SettingsLayer) : together [layer] = layer := by
  simp only [together, lastSet_singleton, lastFilled_singleton, List.flatMap_singleton]

/-! ## Layers without a word -/

theorem merge_empty (layer : SettingsLayer) : merge {} layer = layer := by
  have keeps {α : Type} (list : List α) : preferNonempty [] list = list := by
    cases list <;> rfl
  simp [merge, keeps]

/-- The layers that say something. -/
def speaking (layers : List SettingsLayer) : List SettingsLayer :=
  layers.filter fun layer => decide (layer ≠ {})

theorem together_speaking (layers : List SettingsLayer) :
    together (speaking layers) = together layers := by
  induction layers with
  | nil => rfl
  | cons layer rest induction =>
      have whole : together (layer :: rest) = layer.merge (together rest) := by
        rw [← List.singleton_append, together_append, together_singleton]
      by_cases silent : layer = {}
      · have dropped : speaking (layer :: rest) = speaking rest := by
          simp [speaking, silent]
        rw [dropped, induction, whole, silent, merge_empty]
      · have kept : speaking (layer :: rest) = [layer] ++ speaking rest := by
          simp [speaking, silent]
        rw [kept, together_append, together_singleton, induction, whole]

end SettingsLayer

/-! ## Merging in pairs -/

/-- A way to merge layers in pairs, by where the brackets are. -/
inductive Bracketing where
  | single (layer : SettingsLayer)
  | pair (lower upper : Bracketing)

namespace Bracketing

open SettingsLayer

def layers : Bracketing → List SettingsLayer
  | single layer => [layer]
  | pair lower upper => lower.layers ++ upper.layers

def result : Bracketing → SettingsLayer
  | single layer => layer
  | pair lower upper => lower.result.merge upper.result

theorem result_eq_together (bracketing : Bracketing) :
    bracketing.result = together bracketing.layers := by
  induction bracketing with
  | single layer => exact (together_singleton layer).symm
  | pair lower upper lowerResult upperResult =>
      rw [result, layers, together_append, lowerResult, upperResult]

/-- However layers are merged, the result is what they say together; and two ways to
merge give the same if their layers differ only by some that say nothing. -/
theorem result_bracketing_irrelevant (bracketing : Bracketing) :
    bracketing.result = together bracketing.layers ∧
      ∀ other : Bracketing, speaking other.layers = speaking bracketing.layers →
        other.result = bracketing.result := by
  refine ⟨bracketing.result_eq_together, ?_⟩
  intro other same
  calc other.result
    _ = together (speaking other.layers) := by
      rw [together_speaking, result_eq_together]
    _ = together (speaking bracketing.layers) := by rw [same]
    _ = bracketing.result := by rw [together_speaking, result_eq_together]

/-- An empty text is a word, an empty list is none, and two empty layers change nothing. -/
theorem result_rebracketed :
    let file : SettingsLayer :=
      { marker := some "tag", sourceModules := ["plugins"], exclusions := ["a"] }
    let arguments : SettingsLayer := { marker := some "", exclusions := ["b"], verbosity := some 0 }
    let defaults : SettingsLayer := { marker := some defaultMarker }
    let left := pair (pair (single defaults) (single file)) (single arguments)
    let right := pair (single {}) (pair (single defaults)
      (pair (pair (single file) (single {})) (single arguments)))
    speaking right.layers = speaking left.layers ∧ right.result = left.result ∧ left.result =
      { marker := some "", sourceModules := ["plugins"], exclusions := ["a", "b"],
        verbosity := some 0 } := by
  intro file arguments defaults left right
  have same : speaking right.layers = speaking left.layers := by decide
  exact ⟨same, (result_bracketing_irrelevant left).2 right same, by decide⟩

end Bracketing

/-! ## Settling halfway -/

namespace Format

theorem select_name (format : Format) : select (some format.name) = format := by
  cases format <;> rfl

end Format

namespace SettingsLayer

theorem nonempty?_idempotent (text : Option String) :
    nonempty? (nonempty? text) = nonempty? text := by
  simp [nonempty?]

/-- A text that is used in place of an empty one is itself not empty. -/
theorem nonempty?_getD (text : Option String) {replacement : String}
    (notEmpty : replacement.isEmpty = false) :
    nonempty? (some ((nonempty? text).getD replacement)) =
      some ((nonempty? text).getD replacement) := by
  cases found : nonempty? text with
  | none => simp [nonempty?, notEmpty]
  | some word =>
      have idempotent := nonempty?_idempotent text
      rw [found] at idempotent
      exact idempotent

/-- Settled settings, made a layer, settle to themselves. -/
theorem settle_toLayer (layer : SettingsLayer) : layer.settle.toLayer.settle = layer.settle := by
  have marker := nonempty?_getD layer.marker (show defaultMarker.isEmpty = false by decide)
  have output := nonempty?_getD layer.output (show standardOutput.isEmpty = false by decide)
  simp only [settle, Settings.toLayer, Format.select_name, nonempty?_idempotent, marker, output,
    Option.getD_some]

/-- What is made of the upper word, or else of the lower one, depends on the lower one
only through what is made of it alone. -/
theorem final_or_congr {α β : Type} (final : Option α → β) (upper : Option α)
    {first second : Option α} (same : final first = final second) :
    final (upper.or first) = final (upper.or second) := by
  cases upper with
  | none => exact same
  | some word => rfl

/-- How a lower layer settles is all that matters of it under a further layer. -/
theorem settle_merge_congr {first second : SettingsLayer} (upper : SettingsLayer)
    (same : first.settle = second.settle) :
    (first.merge upper).settle = (second.merge upper).settle := by
  simp only [settle, Settings.mk.injEq] at same
  obtain ⟨format, packageStart, marker, output, paths, modules, exclusions, files, verbosity⟩ := same
  simp only [settle, merge, Settings.mk.injEq, paths, modules, exclusions, files, true_and]
  refine ⟨?_, ?_, ?_, ?_, ?_⟩
  · exact final_or_congr Format.select upper.format format
  · exact final_or_congr nonempty? upper.packageStart packageStart
  · exact final_or_congr (fun text => (nonempty? text).getD defaultMarker) upper.marker marker
  · exact final_or_congr (fun text => (nonempty? text).getD standardOutput) upper.output output
  · exact final_or_congr (·.getD 0) upper.verbosity verbosity

/-- Settling in between changes nothing, whatever is put on top; so settled settings
settle to themselves. -/
theorem settle_halfway (lower upper : SettingsLayer) :
    (lower.settle.toLayer.merge upper).settle = (lower.merge upper).settle ∧
      lower.settle.toLayer.settle = lower.settle :=
  ⟨settle_merge_congr upper (settle_toLayer lower), settle_toLayer lower⟩

end SettingsLayer

end TaggedCatalog
