import TaggedCatalog.CommandLine.Arguments

/-! # Reading options one by one

The bound on the number of steps does not show: arguments are read option by option,
and what is behind an option is read as if it stood alone. So words that spell options
may be put in front of any arguments. -/

namespace TaggedCatalog.Arguments

variable {κ : Type}

/-- The option at the start of an argument, with what is left behind it and its value;
nothing if the argument is no option. -/
def takeOption? (rules : List (OptionRule κ)) (argument : String) (rest : List String) :
    Option (Except ArgumentProblem (List (κ × String) × List String)) :=
  match argument.toList with
  | '-' :: '-' :: _ => some (takeWord rules argument rest)
  | '-' :: letter :: letters => some (takeLetters rules (letter :: letters) rest)
  | _ => none

def withOptions (options : List (κ × String)) (further : Arguments κ) : Arguments κ :=
  { further with options := options ++ further.options }

def withOther (argument : String) (further : Arguments κ) : Arguments κ :=
  { further with others := argument :: further.others }

theorem takeWithin_cons (rules : List (OptionRule κ)) (mixed : Bool) (fuel : Nat)
    (argument : String) (rest : List String) :
    takeWithin rules mixed (fuel + 1) (argument :: rest) =
      if argument = "--" then .ok { others := rest }
      else
        match takeOption? rules argument rest with
        | some taken => taken.bind fun (options, behind) =>
            (takeWithin rules mixed fuel behind).map (withOptions options)
        | none =>
            if mixed then (takeWithin rules mixed fuel rest).map (withOther argument)
            else .ok { others := argument :: rest } := by
  have bind_return (read : Except ArgumentProblem (Arguments κ))
      (transform : Arguments κ → Arguments κ) :
      (do return transform (← read)) = read.map transform := by
    cases read <;> rfl
  rw [takeWithin]
  split
  · rfl
  · split
    · rename_i spelled
      have option : takeOption? rules argument rest = some (takeWord rules argument rest) := by
        simp only [takeOption?, spelled]
      rw [option]
      cases takeWord rules argument rest with
      | error problem => rfl
      | ok taken => exact bind_return _ (withOptions taken.1)
    · rename_i letter letters notDash spelled
      have option : takeOption? rules argument rest =
          some (takeLetters rules (letter :: letters) rest) := by
        simp only [takeOption?, spelled]
      rw [option]
      cases takeLetters rules (letter :: letters) rest with
      | error problem => rfl
      | ok taken => exact bind_return _ (withOptions taken.1)
    · rename_i noWord noLetters
      have option : takeOption? rules argument rest = none := by
        simp only [takeOption?]
      rw [option]
      split
      · exact bind_return _ (withOther argument)
      · rfl

/-! ## The bound -/

theorem length_takeValue_le {name : String} {key : κ} {arguments : List String}
    {taken : List (κ × String) × List String} (isTaken : takeValue name key arguments = .ok taken) :
    taken.2.length ≤ arguments.length := by
  cases arguments with
  | nil => cases isTaken
  | cons value rest =>
      cases isTaken
      exact Nat.le_succ rest.length

theorem length_takeLetters_le {rules : List (OptionRule κ)} {letters : List Char}
    {rest : List String} {taken : List (κ × String) × List String}
    (isTaken : takeLetters rules letters rest = .ok taken) : taken.2.length ≤ rest.length := by
  induction letters generalizing taken with
  | nil =>
      cases isTaken
      exact Nat.le_refl rest.length
  | cons letter letters induction =>
      rw [takeLetters] at isTaken
      split at isTaken
      · cases isTaken
      · split at isTaken
        · split at isTaken
          · exact length_takeValue_le isTaken
          · cases isTaken
            exact Nat.le_refl rest.length
        · cases further : takeLetters rules letters rest with
          | error problem =>
              rw [further] at isTaken
              cases isTaken
          | ok others =>
              rw [further] at isTaken
              cases isTaken
              exact (induction further : others.2.length ≤ rest.length)

theorem length_takeWord_le {rules : List (OptionRule κ)} {argument : String} {rest : List String}
    {taken : List (κ × String) × List String} (isTaken : takeWord rules argument rest = .ok taken) :
    taken.2.length ≤ rest.length := by
  rw [takeWord] at isTaken
  split at isTaken
  · cases isTaken
  · split at isTaken
    · split at isTaken
      · exact length_takeValue_le isTaken
      · cases isTaken
        exact Nat.le_refl rest.length
    · split at isTaken
      · cases isTaken
        exact Nat.le_refl rest.length
      · cases isTaken

theorem length_takeOption?_le {rules : List (OptionRule κ)} {argument : String}
    {rest : List String} {taken : List (κ × String) × List String}
    (isTaken : takeOption? rules argument rest = some (.ok taken)) :
    taken.2.length ≤ rest.length := by
  rw [takeOption?] at isTaken
  split at isTaken
  · exact length_takeWord_le (Option.some.inj isTaken)
  · exact length_takeLetters_le (Option.some.inj isTaken)
  · cases isTaken

/-- More steps than arguments are as good as any other number of them. -/
theorem takeWithin_congr (rules : List (OptionRule κ)) (mixed : Bool) {first second : Nat}
    {arguments : List String} (enough : arguments.length < first)
    (enoughAgain : arguments.length < second) :
    takeWithin rules mixed first arguments = takeWithin rules mixed second arguments := by
  induction first generalizing second arguments with
  | zero => omega
  | succ first induction =>
      cases second with
      | zero => omega
      | succ second =>
          cases arguments with
          | nil => rfl
          | cons argument rest =>
              have further {behind : List String} (shorter : behind.length ≤ rest.length) :
                  takeWithin rules mixed first behind = takeWithin rules mixed second behind := by
                simp only [List.length_cons] at enough enoughAgain
                exact induction (by omega) (by omega)
              rw [takeWithin_cons, takeWithin_cons, further (Nat.le_refl rest.length)]
              cases option : takeOption? rules argument rest with
              | none => rfl
              | some taken =>
                  cases taken with
                  | error problem => rfl
                  | ok taken =>
                      simp only [Except.bind, further (length_takeOption?_le option)]

/-- Arguments are read from the first to the last. -/
theorem take_cons (rules : List (OptionRule κ)) (mixed : Bool) (argument : String)
    (rest : List String) :
    take rules mixed (argument :: rest) =
      if argument = "--" then .ok { others := rest }
      else
        match takeOption? rules argument rest with
        | some taken => taken.bind fun (options, behind) =>
            (take rules mixed behind).map (withOptions options)
        | none =>
            if mixed then (take rules mixed rest).map (withOther argument)
            else .ok { others := argument :: rest } := by
  have further {behind : List String} (shorter : behind.length ≤ rest.length) :
      takeWithin rules mixed (argument :: rest).length behind = take rules mixed behind := by
    apply takeWithin_congr
    · simp only [List.length_cons]
      omega
    · omega
  rw [take, takeWithin_cons, further (Nat.le_refl rest.length)]
  cases option : takeOption? rules argument rest with
  | none => rfl
  | some taken =>
      cases taken with
      | error problem => rfl
      | ok taken => simp only [Except.bind, further (length_takeOption?_le option)]

/-! ## Words that spell options -/

/-- Words in front of any arguments are read as the given options. -/
def Spells (rules : List (OptionRule κ)) (words : List String) (options : List (κ × String)) :
    Prop :=
  ∀ mixed rest, take rules mixed (words ++ rest) = (take rules mixed rest).map (withOptions options)

namespace Spells

variable {rules : List (OptionRule κ)}

theorem nil : Spells rules [] [] := by
  intro mixed rest
  rw [List.nil_append]
  cases take rules mixed rest <;> rfl

theorem append {first second : List String} {earlier later : List (κ × String)}
    (spelled : Spells rules first earlier) (spelledNext : Spells rules second later) :
    Spells rules (first ++ second) (earlier ++ later) := by
  intro mixed rest
  rw [List.append_assoc, spelled, spelledNext]
  cases take rules mixed rest with
  | error problem => rfl
  | ok further => simp [Except.map, withOptions]

theorem replicate {word : String} {option : κ × String} (spelled : Spells rules [word] [option])
    (count : Nat) : Spells rules (List.replicate count word) (List.replicate count option) := by
  induction count with
  | zero => exact nil
  | succ count induction => exact spelled.append induction

theorem of_takeOption? {argument : String} {values : List String} {options : List (κ × String)}
    (notEnd : argument ≠ "--")
    (taken : ∀ rest, takeOption? rules argument (values ++ rest) = some (.ok (options, rest))) :
    Spells rules (argument :: values) options := by
  intro mixed rest
  rw [List.cons_append, take_cons, if_neg notEnd, taken]
  rfl

end Spells

end TaggedCatalog.Arguments
