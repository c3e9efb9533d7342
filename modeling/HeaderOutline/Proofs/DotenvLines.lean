import HeaderOutline.Dotenv

/-! How the lines of a `.env` file are gone through. A line adds at most one variable, and none that is set. The
lines break off at a value with a NUL, and only a line that holds one itself gives such a value. -/
namespace HeaderOutline.Dotenv

inductive Reads : Environment → List (List Char) → Environment → Prop
  | done (environment : Environment) : Reads environment [] environment
  | empty {environment held : Environment} {text : List Char} {rest : List (List Char)}
      (said : line? environment text = some .empty) (later : Reads environment rest held) :
      Reads environment (text :: rest) held
  | known {environment held : Environment} {text : List Char} {rest : List (List Char)} {name value : String}
      (said : line? environment text = some (.variable name value)) (set : (environment.lookup name).isSome)
      (later : Reads environment rest held) : Reads environment (text :: rest) held
  | added {environment held : Environment} {text : List Char} {rest : List (List Char)} {name value : String}
      (said : line? environment text = some (.variable name value)) (unset : environment.lookup name = none)
      (free : '\x00' ∉ value.toList) (later : Reads (environment ++ [(name, value)]) rest held) :
      Reads environment (text :: rest) held

/-- The lines before one are read, and that one sets a new variable to a value with a NUL. -/
def Breaks (environment : Environment) (lines : List (List Char)) (unsettable : Unsettable) : Prop :=
  ∃ earlier text later held, lines = earlier ++ text :: later ∧ Reads environment earlier held ∧
    line? held text = some (.variable unsettable.name unsettable.value) ∧
    held.lookup unsettable.name = none ∧ '\x00' ∈ unsettable.value.toList

variable {environment : Environment}

theorem breaksHere {text : List Char} {rest : List (List Char)} {name value : String}
    (said : line? environment text = some (.variable name value)) (unset : environment.lookup name = none)
    (nul : '\x00' ∈ value.toList) : Breaks environment (text :: rest) ⟨name, value⟩ :=
  ⟨[], text, rest, environment, rfl, .done environment, said, unset, nul⟩

theorem breaksLater {next : Environment} {text : List Char} {rest : List (List Char)} {unsettable : Unsettable}
    (step : ∀ {earlier held}, Reads next earlier held → Reads environment (text :: earlier) held)
    (breaks : Breaks next rest unsettable) : Breaks environment (text :: rest) unsettable := by
  obtain ⟨earlier, other, later, held, rfl, reads, broken⟩ := breaks
  exact ⟨text :: earlier, other, later, held, rfl, step reads, broken⟩

theorem extendBreaks {lines : List (List Char)} {unsettable : Unsettable}
    (failed : extendBy environment lines = .error unsettable) : Breaks environment lines unsettable := by
  induction lines generalizing environment with
  | nil => contradiction
  | cons text rest ih =>
      unfold extendBy at failed
      split at failed
      · contradiction
      · exact breaksLater (.empty ‹_›) (ih failed)
      · rename_i name value said
        split at failed
        · exact breaksLater (.known said ‹_›) (ih failed)
        · rename_i unset
          rw [Option.not_isSome_iff_eq_none] at unset
          split at failed
          · cases failed
            exact breaksHere said unset ‹_›
          · exact breaksLater (.added said unset ‹_›) (ih failed)

theorem readsOn {earlier rest : List (List Char)} {held : Environment} (reads : Reads environment earlier held) :
    extendBy environment (earlier ++ rest) = extendBy held rest := by
  induction reads with
  | done environment => rfl
  | empty said later ih =>
      rw [List.cons_append, extendBy, said]
      exact ih
  | known said set later ih =>
      rw [List.cons_append, extendBy, said]
      simp only [set, if_true]
      exact ih
  | added said unset free later ih =>
      rw [List.cons_append, extendBy, said]
      simp only [unset, Option.isSome_none, Bool.false_eq_true, if_false, free]
      exact ih

theorem extendFails {lines : List (List Char)} {unsettable : Unsettable} :
    extendBy environment lines = .error unsettable ↔ Breaks environment lines unsettable := by
  refine ⟨extendBreaks, ?_⟩
  rintro ⟨earlier, text, later, held, rfl, reads, said, unset, nul⟩
  rw [readsOn reads, extendBy, said]
  simp [unset, nul]

theorem extendKeeps {lines : List (List Char)} {extended : Environment}
    (read : extendBy environment lines = .ok extended) : environment <+: extended := by
  induction lines generalizing environment with
  | nil =>
      cases read
      exact List.prefix_rfl
  | cons text rest ih =>
      unfold extendBy at read
      split at read
      · cases read
        exact List.prefix_rfl
      · exact ih read
      · split at read
        · exact ih read
        · split at read
          · contradiction
          · exact (List.prefix_append _ _).trans (ih read)

/-- No variable holds a NUL: no system starts a program with one that does. -/
def Clean (environment : Environment) : Prop := ∀ entry ∈ environment, '\x00' ∉ entry.2.toList

theorem readsClean {lines : List (List Char)} {held : Environment} (reads : Reads environment lines held)
    (clean : Clean environment) : Clean held := by
  induction reads with
  | done environment => exact clean
  | empty said later ih => exact ih clean
  | known said set later ih => exact ih clean
  | added said unset free later ih =>
      refine ih fun entry listed => ?_
      rcases List.mem_append.mp listed with old | new
      · exact clean entry old
      · rwa [List.mem_singleton.mp new]

section Values

variable (clean : Clean environment)
include clean

theorem valueFree (name : List Char) : '\x00' ∉ valueOf environment name := by
  unfold valueOf
  cases looked : environment.lookup (String.ofList name) with
  | none => simp
  | some value => exact clean _ (lookupListed looked)

theorem takeFree {reader next : Reader} {c : Char} {text : List Char} (given : '\x00' ≠ c)
    (taken : reader.take environment c = some (text, next)) : '\x00' ∉ text := by
  have names := valueFree clean
  unfold Reader.take at taken
  split at taken
  · unfold Reader.takePlain Reader.push Reader.turn at taken
    grind
  · unfold Reader.push at taken
    grind
  · unfold Reader.turn at taken
    grind
  · unfold Reader.takeName Reader.turn at taken
    grind
  · unfold Reader.turn at taken
    grind
  · unfold Reader.turn at taken
    grind
  · grind

theorem finishFree {reader : Reader} {text : List Char} (finished : reader.finish environment = some text) :
    '\x00' ∉ text := by
  have names := valueFree clean
  unfold Reader.finish at finished
  grind

theorem readFree {reader : Reader} {text value : List Char} (given : '\x00' ∉ text)
    (read : reader.read environment text = some value) : '\x00' ∉ value := by
  induction text generalizing reader value with
  | nil => exact finishFree clean read
  | cons c rest ih =>
      rw [List.mem_cons, not_or] at given
      obtain ⟨here, later⟩ := given
      unfold Reader.read at read
      obtain ⟨⟨first, next⟩, taken, read⟩ := Option.bind_eq_some_iff.mp read
      obtain ⟨more, readMore, joined⟩ := Option.bind_eq_some_iff.mp read
      cases Option.some.inj joined
      exact List.not_mem_append (takeFree clean here taken) (ih later readMore)

end Values

theorem trimWithin {text : List Char} : Text.trimStart (Text.trimEnd text) ⊆ text := by
  intro c inside
  have kept := (List.dropWhile_suffix _).subset inside
  exact List.mem_reverse.mp ((List.dropWhile_suffix _).subset (List.mem_reverse.mp kept))

theorem keyWithin {text key rest : List Char} (found : key? text = some (key, rest)) : rest ⊆ text := by
  unfold key? at found
  split at found
  · split at found
    · cases found
      exact (List.dropWhile_suffix _).subset
    · contradiction
  · contradiction

theorem restWithin {text key rest : List Char} (found : keyAndRest? text = some (key, rest)) : rest ⊆ text := by
  unfold keyAndRest? at found
  obtain ⟨⟨first, behind⟩, named, found⟩ := Option.bind_eq_some_iff.mp found
  have inside := keyWithin named
  have trimmed : Text.trimStart behind ⊆ behind := (List.dropWhile_suffix _).subset
  dsimp only at found
  split at found
  · rename_i equals
    cases found
    rw [equals] at trimmed
    exact fun c listed => inside (trimmed (List.mem_cons_of_mem _ listed))
  · split at found
    · obtain ⟨⟨second, behind'⟩, named', found⟩ := Option.bind_eq_some_iff.mp found
      have inside' := keyWithin named'
      have trimmed' : Text.trimStart behind' ⊆ behind' := (List.dropWhile_suffix _).subset
      dsimp only at found
      split at found
      · rename_i equals
        cases found
        rw [equals] at trimmed'
        exact fun c listed => inside (trimmed (inside' (trimmed' (List.mem_cons_of_mem _ listed))))
      · contradiction
    · contradiction

theorem lineFree {text : List Char} {name value : String} (clean : Clean environment) (given : '\x00' ∉ text)
    (said : line? environment text = some (.variable name value)) : '\x00' ∉ value.toList := by
  unfold line? at said
  dsimp only at said
  split at said
  · cases said
  · obtain ⟨⟨key, rest⟩, found, said⟩ := Option.bind_eq_some_iff.mp said
    dsimp only at said
    split at said
    · cases said
      simp
    · obtain ⟨characters, read, said⟩ := Option.bind_eq_some_iff.mp said
      cases Option.some.inj said
      rw [String.toList_ofList]
      refine readFree clean (fun inside => given ?_) read
      exact trimWithin (restWithin found ((List.dropWhile_suffix _).subset inside))

theorem breaksHolds {lines : List (List Char)} {unsettable : Unsettable} (clean : Clean environment)
    (breaks : Breaks environment lines unsettable) : ∃ text ∈ lines, '\x00' ∈ text := by
  obtain ⟨earlier, text, later, held, rfl, reads, said, -, nul⟩ := breaks
  refine ⟨text, by simp, Decidable.byContradiction fun given => ?_⟩
  exact lineFree (readsClean reads clean) given said nul

end HeaderOutline.Dotenv
