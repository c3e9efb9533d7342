import HeaderOutline.CommandLine
import HeaderOutline.Proofs.Texts
import Mathlib.Data.List.Induction
import Mathlib.Data.List.Nodup

/-! A command line that is written argument by argument parses back to what is meant by it, in whatever order
options and headers stand among each other. What an argument leaves pending is looked at by the next one, so the
invariant of a run is what would come of it if it ended here. -/
namespace HeaderOutline

namespace CommandLine

inductive Form where
  | long | short
  deriving DecidableEq, Repr

inductive Argument where
  | header (text : String)
  | includeDir (form : Form) (text : String)
  | define (form : Form) (text : String)
  | config (text : String)
  | indexSymbols
  | quiet (form : Form)
  | verbose (form : Form)
  deriving DecidableEq, Repr

namespace Argument

def written : Argument → String
  | header text => text
  | includeDir .long text => "--include=" ++ text
  | includeDir .short text => "-I" ++ text
  | define .long text => "--define=" ++ text
  | define .short text => "-D" ++ text
  | config text => "--config=" ++ text
  | indexSymbols => "--index-symbols"
  | quiet .long => "--quiet"
  | quiet .short => "-q"
  | verbose .long => "--verbose"
  | verbose .short => "-v"

/-- The value is not empty and begins with nothing that would be read in another way. -/
def Sound : Argument → Prop
  | header text => text ≠ "" ∧ text.toList.head? ≠ some '-'
  | includeDir .short text | define .short text => text ≠ "" ∧ text.toList.head? ≠ some '='
  | includeDir .long text | define .long text | config text => text ≠ ""
  | indexSymbols | quiet _ | verbose _ => True

def header? : Argument → Option Path
  | header text => some ⟨text⟩
  | _ => none

def includeDir? : Argument → Option Path
  | includeDir _ text => some ⟨text⟩
  | _ => none

def definition? : Argument → Option String
  | define _ text => some text
  | _ => none

def config? : Argument → Option Path
  | config text => some ⟨text⟩
  | _ => none

def switch? : Argument → Option Switch
  | indexSymbols => some .indexSymbols
  | quiet _ => some .quiet
  | verbose _ => some .verbose
  | _ => none

end Argument

def turned (line : CommandLine) : Switch → Bool
  | .indexSymbols => line.indexSymbols
  | .quiet => line.quiet
  | .verbose => line.verbose
  | .help | .version => false

/-- The arguments are those of the line: each list keeps its own order, whatever stands between, and what can be
given once is given at most once. -/
structure Interleaves (line : CommandLine) (arguments : List Argument) : Prop where
  sound : ∀ argument ∈ arguments, argument.Sound
  headers : arguments.filterMap Argument.header? = line.headers
  includeDirs : arguments.filterMap Argument.includeDir? = line.includeDirs
  macros : arguments.filterMap Argument.definition? = line.macros
  config : arguments.filterMap Argument.config? = line.config.toList
  once : (arguments.filterMap Argument.switch?).Nodup
  switches : ∀ switch, switch ∈ arguments.filterMap Argument.switch? ↔ line.turned switch = true

def meant (arguments : List Argument) : CommandLine :=
  { headers := arguments.filterMap Argument.header?
    config := (arguments.filterMap Argument.config?).head?
    includeDirs := arguments.filterMap Argument.includeDir?
    macros := arguments.filterMap Argument.definition?
    indexSymbols := .indexSymbols ∈ arguments.filterMap Argument.switch?
    quiet := .quiet ∈ arguments.filterMap Argument.switch?
    verbose := .verbose ∈ arguments.filterMap Argument.switch? }

def add (line : CommandLine) (argument : Argument) : CommandLine :=
  { headers := line.headers ++ argument.header?.toList
    config := line.config.or argument.config?
    includeDirs := line.includeDirs ++ argument.includeDir?.toList
    macros := line.macros ++ argument.definition?.toList
    indexSymbols := line.indexSymbols || argument.switch? = some .indexSymbols
    quiet := line.quiet || argument.switch? = some .quiet
    verbose := line.verbose || argument.switch? = some .verbose }

structure Fits (line : CommandLine) (argument : Argument) : Prop where
  config : argument.config?.isSome = true → line.config = none
  switch : ∀ switch, argument.switch? = some switch → line.turned switch = false

structure Once (arguments : List Argument) : Prop where
  config : (arguments.filterMap Argument.config?).length ≤ 1
  switches : (arguments.filterMap Argument.switch?).Nodup

variable {line : CommandLine} {before after arguments : List Argument} {argument : Argument}
  {progress : Progress} {switch : Switch} {text : String}

section
open Argument

theorem addHeader : line.add (.header text) = { line with headers := line.headers ++ [⟨text⟩] } := by
  simp [add, header?, includeDir?, definition?, config?, switch?]

theorem addIncludeDir {form : Form} :
    line.add (.includeDir form text) = { line with includeDirs := line.includeDirs ++ [⟨text⟩] } := by
  simp [add, header?, includeDir?, definition?, config?, switch?]

theorem addDefine {form : Form} : line.add (.define form text) = { line with macros := line.macros ++ [text] } := by
  simp [add, header?, includeDir?, definition?, config?, switch?]

theorem addConfig (first : line.config = none) : line.add (.config text) = { line with config := some ⟨text⟩ } := by
  simp [add, header?, includeDir?, definition?, config?, switch?, first]

theorem addSwitch (names : argument.switch? = some switch) (first : line.turned switch = false) :
    turnOn line switch = .ok (line.add argument) := by
  unfold turned at first
  cases argument <;> cases names <;>
    simp_all [turnOn, add, header?, includeDir?, definition?, config?, switch?]

end

theorem filterMapConcat {α β : Type} (f : α → Option β) (xs : List α) (x : α) :
    (xs ++ [x]).filterMap f = xs.filterMap f ++ (f x).toList := by
  rw [List.filterMap_append]
  cases made : f x <;> simp [made]

theorem meantConcat (before : List Argument) (argument : Argument) :
    meant (before ++ [argument]) = (meant before).add argument := by
  unfold meant add
  simp only [filterMapConcat, List.head?_append, Option.head?_toList, List.mem_append, Option.mem_toList,
    Bool.decide_or]

theorem interleavesMeant (interleaves : Interleaves line arguments) : meant arguments = line := by
  obtain ⟨-, headers, includeDirs, macros, config, -, switches⟩ := interleaves
  have turns (switch : Switch) : decide (switch ∈ arguments.filterMap Argument.switch?) = line.turned switch := by
    simp only [switches, Bool.decide_eq_true]
  unfold meant
  rw [headers, includeDirs, macros, config, Option.head?_toList, turns, turns, turns]
  rfl

theorem onceBefore (once : Once (before ++ after)) : Once before := by
  obtain ⟨config, switches⟩ := once
  rw [List.filterMap_append, List.length_append] at config
  rw [List.filterMap_append] at switches
  exact ⟨Nat.le_of_add_right_le config, (List.nodup_append.mp switches).1⟩

theorem onceFits (once : Once (before ++ [argument])) : Fits (meant before) argument := by
  obtain ⟨config, switches⟩ := once
  rw [filterMapConcat, List.length_append] at config
  rw [filterMapConcat] at switches
  constructor
  · intro given
    obtain ⟨path, made⟩ := Option.isSome_iff_exists.mp given
    rw [made, Option.toList_some, List.length_singleton] at config
    have none : before.filterMap Argument.config? = [] := List.length_eq_zero_iff.mp (by omega)
    unfold meant
    rw [none]
    rfl
  · intro switch names
    rw [names] at switches
    have fresh : switch ∉ before.filterMap Argument.switch? := fun known =>
      List.disjoint_of_nodup_append switches known (List.mem_singleton_self switch)
    cases argument <;> cases names <;> exact decide_eq_false fresh

section Token
variable {option : ValueOption} {spelling name : String} {c : Char} {next : CommandLine}

theorem valuedStores (settled : settle progress = .ok line) (stored : store line option text = .ok next) :
    valued progress option (some text.toList) = .ok ⟨next, .nothing⟩ := by
  unfold valued
  rw [settled]
  simp only [bind, Except.bind, String.ofList_toList, stored]

theorem switchedTurns (settled : settle progress = .ok line) (turned : turnOn line switch = .ok next) :
    switched progress switch = .ok ⟨next, .nothing⟩ := by
  unfold switched
  rw [settled]
  simp only [bind, Except.bind, turned]

theorem tokenLong {rest : List Char} (spelled : spelling.toList = '-' :: '-' :: rest) :
    token progress spelling = long progress rest := by
  unfold token
  rw [spelled]
  rfl

theorem tokenShort {rest : List Char} (spelled : spelling.toList = '-' :: c :: rest) (single : c ≠ '-') :
    token progress spelling = short progress (c :: rest) := by
  unfold token
  rw [spelled]
  split
  · rename_i same
    cases same
    contradiction
  · rename_i same
    cases same
    rfl
  · rename_i other
    exact absurd rfl (other c rest)

theorem nameInside (plain : '=' ∉ name.toList) : ∀ c ∈ name.toList, decide (c ≠ '=') = true := fun _ listed =>
  decide_eq_true fun same => plain (same ▸ listed)

theorem longValue (known : longOptions.lookup name = some (.value option)) (plain : '=' ∉ name.toList) :
    long progress (name.toList ++ '=' :: text.toList) = valued progress option (some text.toList) := by
  obtain ⟨taken, dropped⟩ := Text.spanExact (nameInside plain) (show ∀ c ∈ ('=' :: text.toList).head?, _ by simp)
  unfold long
  rw [taken, dropped]
  dsimp only
  rw [String.ofList_toList, known]

theorem longSwitch (known : longOptions.lookup name = some (.switch switch)) (plain : '=' ∉ name.toList) :
    long progress name.toList = switched progress switch := by
  obtain ⟨taken, dropped⟩ := Text.spanExact (nameInside plain) (show ∀ c ∈ ([] : List Char).head?, _ from nofun)
  rw [List.append_nil] at taken dropped
  unfold long
  rw [taken, dropped]
  dsimp only
  rw [String.ofList_toList, known]
  rfl

theorem shortValue (known : shortOptions.lookup c = some (.value option)) (written : text ≠ "")
    (value : text.toList.head? ≠ some '=') :
    short progress (c :: text.toList) = valued progress option (some text.toList) := by
  unfold short
  rw [known]
  cases spelled : text.toList with
  | nil => exact absurd (String.toList_eq_nil_iff.mp spelled) written
  | cons first rest =>
      rw [spelled] at value
      dsimp only
      split
      · contradiction
      · rename_i same
        cases same
        contradiction
      · rfl

theorem shortSwitch (known : shortOptions.lookup c = some (.switch switch)) :
    short progress [c] = switched progress switch := by
  unfold short
  rw [known]
  dsimp only
  cases switched progress switch <;> rfl

theorem attachedLong (name : String) (spelled : spelling.toList = '-' :: '-' :: (name.toList ++ ['=']))
    (known : longOptions.lookup name = some (.value option)) (plain : '=' ∉ name.toList) :
    token progress (spelling ++ text) = valued progress option (some text.toList) := by
  have whole : (spelling ++ text).toList = '-' :: '-' :: (name.toList ++ '=' :: text.toList) := by
    rw [String.toList_append, spelled]
    simp
  rw [tokenLong whole, longValue known plain]

theorem attachedShort (spelled : spelling.toList = ['-', c]) (single : c ≠ '-')
    (known : shortOptions.lookup c = some (.value option)) (written : text ≠ "")
    (value : text.toList.head? ≠ some '=') :
    token progress (spelling ++ text) = valued progress option (some text.toList) := by
  have whole : (spelling ++ text).toList = '-' :: c :: text.toList := by
    rw [String.toList_append, spelled]
    rfl
  rw [tokenShort whole single, shortValue known written value]

theorem switchLong (name : String) (spelled : spelling.toList = '-' :: '-' :: name.toList)
    (known : longOptions.lookup name = some (.switch switch)) (plain : '=' ∉ name.toList) :
    token progress spelling = switched progress switch := by
  rw [tokenLong spelled, longSwitch known plain]

theorem switchShort (spelled : spelling.toList = ['-', c]) (single : c ≠ '-')
    (known : shortOptions.lookup c = some (.switch switch)) :
    token progress spelling = switched progress switch := by
  rw [tokenShort spelled single, shortSwitch known]

end Token

theorem headersSettle {done : CommandLine} {texts : List String} :
    settle ⟨done, .headers texts⟩ = .ok line ↔
      "" ∉ texts ∧ { done with headers := done.headers ++ texts.map Path.mk } = line := by
  unfold settle paths
  by_cases written : "" ∈ texts <;> simp [written, Except.map]

theorem headerSettles (settled : settle progress = .ok line) (written : text ≠ "")
    (noOption : text.toList.head? ≠ some '-') : ∃ next, token progress text = .ok next ∧
      settle next = .ok { line with headers := line.headers ++ [⟨text⟩] } := by
  -- A header joins those that are pending, or else settles what is and begins anew.
  have reads : token progress text = plain progress text := by
    unfold token
    split <;> simp_all
  have begins : settle ⟨line, .headers [text]⟩ = .ok { line with headers := line.headers ++ [⟨text⟩] } :=
    headersSettle.mpr ⟨by simpa using written.symm, rfl⟩
  rw [reads]
  obtain ⟨done, pending⟩ := progress
  cases pending with
  | awaiting option => contradiction
  | headers texts =>
      obtain ⟨earlier, rfl⟩ := headersSettle.mp settled
      refine ⟨_, rfl, headersSettle.mpr ⟨by simp [earlier, written.symm], by simp⟩⟩
  | nothing | value option value =>
      refine ⟨_, ?_, begins⟩
      unfold plain header
      rw [settled]
      rfl

section Settles
variable {option : ValueOption} (settled : settle progress = .ok line)
include settled

theorem valueSettles (read : token progress argument.written = valued progress option (some text.toList))
    (stored : store line option text = .ok (line.add argument)) :
    ∃ next, token progress argument.written = .ok next ∧ settle next = .ok (line.add argument) :=
  ⟨_, read.trans (valuedStores settled stored), rfl⟩

theorem switchSettles (read : token progress argument.written = switched progress switch)
    (fits : Fits line argument) (names : argument.switch? = some switch) :
    ∃ next, token progress argument.written = .ok next ∧ settle next = .ok (line.add argument) :=
  ⟨_, read.trans (switchedTurns settled (addSwitch names (fits.switch switch names))), rfl⟩

theorem tokenSettles (sound : argument.Sound) (fits : Fits line argument) :
    ∃ next, token progress argument.written = .ok next ∧ settle next = .ok (line.add argument) := by
  cases argument with
  | header text =>
      obtain ⟨written, noOption⟩ := sound
      rw [addHeader]
      exact headerSettles settled written noOption
  | includeDir form text =>
      have stored (written : text ≠ "") : store line .includeDir text = .ok (line.add (.includeDir form text)) := by
        rw [addIncludeDir]
        exact if_neg written
      cases form with
      | long => exact valueSettles settled (attachedLong "include" rfl rfl (by decide)) (stored sound)
      | short =>
          obtain ⟨written, value⟩ := sound
          exact valueSettles settled (attachedShort rfl (by decide) rfl written value) (stored written)
  | define form text =>
      have stored : store line .define text = .ok (line.add (.define form text)) := by
        rw [addDefine]
        rfl
      cases form with
      | long => exact valueSettles settled (attachedLong "define" rfl rfl (by decide)) stored
      | short =>
          obtain ⟨written, value⟩ := sound
          exact valueSettles settled (attachedShort rfl (by decide) rfl written value) stored
  | config text =>
      have first := fits.config rfl
      have stored : store line .config text = .ok (line.add (.config text)) := by
        unfold store
        rw [addConfig first, first, if_neg (by simp)]
        exact if_neg sound
      exact valueSettles settled (attachedLong "config" rfl rfl (by decide)) stored
  | indexSymbols => exact switchSettles settled (switchLong "index-symbols" rfl rfl (by decide)) fits rfl
  | quiet form =>
      cases form with
      | long => exact switchSettles settled (switchLong "quiet" rfl rfl (by decide)) fits rfl
      | short => exact switchSettles settled (switchShort rfl (by decide) rfl) fits rfl
  | verbose form =>
      cases form with
      | long => exact switchSettles settled (switchLong "verbose" rfl rfl (by decide)) fits rfl
      | short => exact switchSettles settled (switchShort rfl (by decide) rfl) fits rfl

end Settles

theorem writtenNoEnd (sound : argument.Sound) : argument.written ≠ "--" := by
  intro same
  have spelled := congrArg String.toList same
  cases argument with
  | header text =>
      rw [show text = "--" from same] at sound
      exact absurd rfl sound.2
  | includeDir form text | define form text =>
      cases form <;> simp [Argument.written, String.toList_append] at spelled
  | config text => simp [Argument.written, String.toList_append] at spelled
  | indexSymbols => contradiction
  | quiet form | verbose form => cases form <;> contradiction

theorem tokensMeant (sound : ∀ argument ∈ arguments, argument.Sound) (once : Once (before ++ arguments))
    (settled : settle progress = .ok (meant before)) :
    ∃ last, tokens progress (arguments.map Argument.written) = .ok last ∧
      settle last = .ok (meant (before ++ arguments)) := by
  induction arguments generalizing before progress with
  | nil => exact ⟨progress, rfl, by rwa [List.append_nil]⟩
  | cons argument rest ih =>
      obtain ⟨here, later⟩ := List.forall_mem_cons.mp sound
      rw [List.append_cons] at once ⊢
      obtain ⟨next, read, settles⟩ := tokenSettles settled here (onceFits (onceBefore once))
      rw [← meantConcat] at settles
      obtain ⟨last, readOn, settlesLast⟩ := ih later once settles
      refine ⟨last, ?_, settlesLast⟩
      rw [List.map_cons, tokens, if_neg (writtenNoEnd here), read]
      exact readOn

theorem parseInterleaved (interleaves : Interleaves line arguments) : parse (arguments.map Argument.written) =
    if line.quiet ∧ line.verbose then .error (.usage .argumentConflict) else .ok line := by
  have once : Once ([] ++ arguments) := ⟨interleaves.config ▸ Option.length_toList_le, interleaves.once⟩
  have start : settle ⟨empty, .nothing⟩ = .ok (meant []) := rfl
  obtain ⟨last, read, settles⟩ := tokensMeant interleaves.sound once start
  rw [List.nil_append, interleavesMeant interleaves] at settles
  unfold parse
  rw [read]
  simp only [bind, Except.bind, settles]

section Inserted
variable (names : argument.switch? = some switch)
include names

theorem switchAlone : argument.header? = none ∧ argument.includeDir? = none ∧ argument.definition? = none ∧
    argument.config? = none ∧ argument.Sound := by
  cases argument <;> cases names <;> exact ⟨rfl, rfl, rfl, rfl, trivial⟩

theorem addKeeps (line : CommandLine) : (line.add argument).headers = line.headers ∧
    (line.add argument).includeDirs = line.includeDirs ∧ (line.add argument).macros = line.macros ∧
    (line.add argument).config = line.config := by
  obtain ⟨noHeader, noIncludeDir, noMacro, noConfig, -⟩ := switchAlone names
  simp [add, noHeader, noIncludeDir, noMacro, noConfig]

theorem addTurned (other : Switch) :
    (line.add argument).turned other = true ↔ other = switch ∨ line.turned other = true := by
  cases argument <;> cases names <;> cases other <;> simp [add, turned, Argument.switch?]

theorem switchInserted (interleaves : Interleaves line (before ++ after)) (first : line.turned switch = false) :
    Interleaves (line.add argument) (before ++ argument :: after) := by
  obtain ⟨noHeader, noIncludeDir, noMacro, noConfig, sound⟩ := switchAlone names
  obtain ⟨headers, includeDirs, macros, config⟩ := addKeeps names line
  have unchanged {α : Type} (f : Argument → Option α) (none : f argument = none) :
      (before ++ argument :: after).filterMap f = (before ++ after).filterMap f := by
    rw [List.filterMap_append, List.filterMap_cons_none none, List.filterMap_append]
  have switches : ((before ++ argument :: after).filterMap Argument.switch?).Perm
      (switch :: (before ++ after).filterMap Argument.switch?) := by
    rw [List.filterMap_append, List.filterMap_cons_some names, List.filterMap_append]
    exact List.perm_middle
  have fresh : switch ∉ (before ++ after).filterMap Argument.switch? := by
    rw [interleaves.switches, first]
    exact Bool.false_ne_true
  exact
    { sound := fun other listed => by
        rcases List.mem_cons.mp (List.perm_middle.subset listed) with rfl | given
        · exact sound
        · exact interleaves.sound other given
      headers := by rw [unchanged _ noHeader, interleaves.headers, headers]
      includeDirs := by rw [unchanged _ noIncludeDir, interleaves.includeDirs, includeDirs]
      macros := by rw [unchanged _ noMacro, interleaves.macros, macros]
      config := by rw [unchanged _ noConfig, interleaves.config, config]
      once := switches.nodup_iff.mpr (List.nodup_cons.mpr ⟨fresh, interleaves.once⟩)
      switches := fun other => by
        rw [switches.mem_iff, List.mem_cons, interleaves.switches, addTurned names] }

theorem conflictInserted (interleaves : Interleaves line (before ++ after)) (first : line.turned switch = false)
    (quiet : (line.add argument).turned .quiet = true) (verbose : (line.add argument).turned .verbose = true) :
    parse (before.map Argument.written ++ argument.written :: after.map Argument.written) =
      .error (.usage .argumentConflict) := by
  have parsed := parseInterleaved (switchInserted names interleaves first)
  rw [List.map_append, List.map_cons] at parsed
  rw [parsed]
  exact if_pos ⟨quiet, verbose⟩

end Inserted

theorem parsedAsMeant (line : CommandLine) (arguments : List Argument) (interleaves : Interleaves line arguments) :
    (¬(line.quiet = true ∧ line.verbose = true) → parse (arguments.map Argument.written) = .ok line) ∧
    ∀ (form : Form) (before after : List String), arguments.map Argument.written = before ++ after →
      (line.quiet = true → line.verbose = false →
        parse (before ++ (Argument.verbose form).written :: after) = .error (.usage .argumentConflict)) ∧
      (line.verbose = true → line.quiet = false →
        parse (before ++ (Argument.quiet form).written :: after) = .error (.usage .argumentConflict)) := by
  refine ⟨fun apart => by rw [parseInterleaved interleaves, if_neg apart], fun form before after split => ?_⟩
  obtain ⟨front, back, rfl, rfl, rfl⟩ := List.map_eq_append_iff.mp split
  constructor
  · intro quiet verbose
    have names : (Argument.verbose form).switch? = some .verbose := rfl
    exact conflictInserted names interleaves verbose ((addTurned names _).mpr (.inr quiet))
      ((addTurned names _).mpr (.inl rfl))
  · intro verbose quiet
    have names : (Argument.quiet form).switch? = some .quiet := rfl
    exact conflictInserted names interleaves quiet ((addTurned names _).mpr (.inl rfl))
      ((addTurned names _).mpr (.inr verbose))

def scattered : List Argument :=
  [.header "a b.h", .define .short "-X=1 2", .quiet .short, .header "x=y/-q.h", .includeDir .short "--",
    .config "=c", .header "c.h", .includeDir .long "=inc", .indexSymbols, .define .long "Y"]

def gathered : CommandLine :=
  { headers := [⟨"a b.h"⟩, ⟨"x=y/-q.h"⟩, ⟨"c.h"⟩]
    config := some ⟨"=c"⟩
    includeDirs := [⟨"--"⟩, ⟨"=inc"⟩]
    macros := ["-X=1 2", "Y"]
    indexSymbols := true
    quiet := true
    verbose := false }

theorem scatteredGathered :
    Interleaves gathered scattered ∧
    parse ["a b.h", "-D-X=1 2", "-q", "x=y/-q.h", "-I--", "--config==c", "c.h", "--include==inc", "--index-symbols",
      "--define=Y"] = .ok gathered ∧
    parse ["a b.h", "-D-X=1 2", "-q", "x=y/-q.h", "--verbose", "-I--", "--config==c", "c.h", "--include==inc",
      "--index-symbols", "--define=Y"] = .error (.usage .argumentConflict) := by
  have interleaves : Interleaves gathered scattered := by
    refine ⟨?_, rfl, rfl, rfl, rfl, by decide, ?_⟩
    · simp [scattered, Argument.Sound]
    · intro switch
      cases switch <;> decide
  obtain ⟨parsed, conflicts⟩ := parsedAsMeant gathered scattered interleaves
  refine ⟨interleaves, parsed (by decide), ?_⟩
  exact (conflicts .long ["a b.h", "-D-X=1 2", "-q", "x=y/-q.h"] _ rfl).1 rfl rfl

end CommandLine

end HeaderOutline
