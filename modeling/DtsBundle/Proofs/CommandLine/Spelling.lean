import DtsBundle.Proofs.CommandLine.Items
import Mathlib.Data.List.TakeWhile
/-!
# How a command line is spelled

A setting is spelled out with two dashes, its value behind an equals sign or in the next token, or with one dash and its
letter, if it has one; switches are spelled out, or their letters stand together behind one dash, in front of the letter
of a setting perhaps.  `Spells` has a rule for each spelling and says nothing about how a line is read.

**Each spelling does to the reading what its items do** (`Spells.foldlM_next`), whatever stands in the values: a value is
taken whole, and nothing of it is taken for an option.  So **a line that gives each item once means the same in every
order and every spelling** (`parse_of_spells`).
-/
namespace DtsBundle.CommandLine

/-! ## Names, letters and spellings -/

/-- The long name of a setting. -/
def Setting.word : Setting → Text
  | name => "name".toList
  | filename => "filename".toList
  | dir => "dir".toList
  | tsc => "tsc".toList

/-- The letter of a setting, if it has one. -/
def Setting.letter? : Setting → Option Char
  | name => some 'n'
  | filename => some 'f'
  | dir => some 'C'
  | tsc => none

/-- The long name of a switch. -/
def Switch.word : Switch → Text
  | printUnit => "print-unit".toList
  | strict => "strict".toList
  | verbose => "verbose".toList
  | debug => "debug".toList

/-- The letter of a switch, if it has one. -/
def Switch.letter? : Switch → Option Char
  | verbose => some 'v'
  | debug => some 'd'
  | printUnit | strict => none

/-- Letters that stand for switches. -/
def AreLetters (letters : Text) (switches : List Switch) : Prop :=
  switches.map Switch.letter? = letters.map some

/-- Tokens that spell items one after the other. -/
inductive Spells : List Text → List Item → Prop
  | nil : Spells [] []
  -- `--option=value`
  | joined {s : Setting} {value : Text} {tokens : List Text} {items : List Item} (hrest : Spells tokens items) :
    Spells (('-' :: '-' :: (s.word ++ '=' :: value)) :: tokens) (.setting s value :: items)
  -- `--option value`
  | apart {s : Setting} {value : Text} {tokens : List Text} {items : List Item} (hvalue : value.head? ≠ some '-')
    (hrest : Spells tokens items) : Spells (('-' :: '-' :: s.word) :: value :: tokens) (.setting s value :: items)
  -- `--option`
  | switch {s : Switch} {tokens : List Text} {items : List Item} (hrest : Spells tokens items) :
    Spells (('-' :: '-' :: s.word) :: tokens) (.switch s :: items)
  -- `-v`, or `-vd` for two
  | cluster {letters : Text} {switches : List Switch} {tokens : List Text} {items : List Item}
    (hletters : AreLetters letters switches) (hsome : letters ≠ []) (hrest : Spells tokens items) :
    Spells (('-' :: letters) :: tokens) (switches.map .switch ++ items)
  -- `-o value`, or `-vo value` behind a switch
  | letterApart {letters : Text} {switches : List Switch} {s : Setting} {c : Char} {value : Text} {tokens : List Text}
    {items : List Item} (hletters : AreLetters letters switches) (hletter : s.letter? = some c)
    (hvalue : value.head? ≠ some '-') (hrest : Spells tokens items) :
    Spells (('-' :: (letters ++ [c])) :: value :: tokens) (switches.map .switch ++ .setting s value :: items)
  -- `-ovalue`, or `-vovalue`
  | attached {letters : Text} {switches : List Switch} {s : Setting} {c : Char} {value : Text} {tokens : List Text}
    {items : List Item} (hletters : AreLetters letters switches) (hletter : s.letter? = some c) (hsome : value ≠ [])
    (hvalue : value.head? ≠ some '=') (hrest : Spells tokens items) :
    Spells (('-' :: (letters ++ c :: value)) :: tokens) (switches.map .switch ++ .setting s value :: items)
  -- `-o=value`, or `-vo=value`
  | attachedJoined {letters : Text} {switches : List Switch} {s : Setting} {c : Char} {value : Text} {tokens : List Text}
    {items : List Item} (hletters : AreLetters letters switches) (hletter : s.letter? = some c)
    (hrest : Spells tokens items) :
    Spells (('-' :: (letters ++ c :: '=' :: value)) :: tokens) (switches.map .switch ++ .setting s value :: items)

theorem Setting.ofLong?_word (s : Setting) : ofLong? s.word = some (.setting s) := by
  cases s <;> decide

theorem Switch.ofLong?_word (s : Switch) : ofLong? s.word = some (.switch s) := by
  cases s <;> decide

theorem Setting.not_mem_word (s : Setting) : '=' ∉ s.word := by
  cases s <;> decide

theorem Switch.not_mem_word (s : Switch) : '=' ∉ s.word := by
  cases s <;> decide

theorem Setting.word_ne_nil (s : Setting) : s.word ≠ [] := by
  cases s <;> decide

theorem Switch.word_ne_nil (s : Switch) : s.word ≠ [] := by
  cases s <;> decide

theorem Setting.ofShort?_of_letter? {s : Setting} {c : Char} (h : s.letter? = some c) :
    ofShort? c = some (.setting s) ∧ c ≠ '-' := by
  cases s with
  | tsc => cases h
  | name | filename | dir =>
    cases h
    decide

theorem Switch.ofShort?_of_letter? {s : Switch} {c : Char} (h : s.letter? = some c) :
    ofShort? c = some (.switch s) ∧ c ≠ '-' := by
  cases s with
  | printUnit | strict => cases h
  | verbose | debug =>
    cases h
    decide

theorem areLetters_cons {c : Char} {letters : Text} {switches : List Switch} (h : AreLetters (c :: letters) switches) :
    ∃ s rest, switches = s :: rest ∧ s.letter? = some c ∧ AreLetters letters rest := by
  unfold AreLetters at h
  obtain ⟨s, rest, rfl, hletter, hrest⟩ := List.map_eq_cons_iff.1 h
  exact ⟨s, rest, rfl, hletter, hrest⟩

/-! ## The reading between two spellings -/

namespace State

/-- All that was read is given once what is pending is looked at, and options may follow. -/
structure Ready (state : State) (given : Given) : Prop where
  takesOptions : state.operandsOnly = false
  settled : state.settled = .ok given

variable {state : State} {given given' : Given} {s : Setting} {value : Text}

theorem ready_of (given : Given) : Ready (.of given) given :=
  ⟨rfl, rfl⟩

/-- A value that is still to be looked at is given if it can be. -/
theorem ready_pending (hadd : (Item.setting s value).add given = .ok given') :
    Ready ⟨given, some (s, some value), false⟩ given' :=
  ⟨rfl, hadd⟩

namespace Ready

theorem option_waiting (h : Ready state given) (s : Setting) :
    state.option (.setting s) none = .ok ⟨given, some (s, none), false⟩ := by
  rw [option, h.settled]
  rfl

theorem option_value (h : Ready state given) (hadd : (Item.setting s value).add given = .ok given') :
    state.option (.setting s) (some value) = .ok (.of given') := by
  have haccept : accept given s value = .ok given' := hadd
  rw [option, h.settled]
  simp only [bind, Except.bind, haccept]
  rfl

theorem option_switch {s : Switch} (h : Ready state given) (hadd : (Item.switch s).add given = .ok given') :
    state.option (.switch s) none = .ok (.of given') := by
  have hon : turnOn given s = .ok given' := hadd
  rw [option, h.settled]
  simp only [bind, Except.bind, hon]
  rfl

end Ready

/-! ## One token -/

theorem next_long (h : state.operandsOnly = false) {text : Text} (hne : text ≠ []) :
    state.next ('-' :: '-' :: text) = state.long text := by
  obtain ⟨c, rest, rfl⟩ := List.exists_cons_of_ne_nil hne
  unfold next
  rw [h]
  rfl

theorem next_letters (h : state.operandsOnly = false) {c : Char} (hc : c ≠ '-') (rest : Text) :
    state.next ('-' :: c :: rest) = state.letters (c :: rest) := by
  simp [next, h, hc]

theorem next_plain (h : state.operandsOnly = false) {token : Text} (hdash : token.head? ≠ some '-') :
    state.next token = state.plain token := by
  cases token with
  | nil => simp [next, h]
  | cons c rest =>
    have hc : c ≠ '-' := fun heq => hdash (congrArg some heq)
    simp [next, h, hc]

theorem long_joined {word : Text} {flag : Flag} (hword : '=' ∉ word) (hflag : ofLong? word = some flag) (value : Text)
    (state : State) : state.long (word ++ '=' :: value) = state.option flag (some value) := by
  have hname : (word ++ '=' :: value).takeWhile (· != '=') = word := by
    rw [List.takeWhile_append_of_pos fun c hc => bne_iff_ne.2 (ne_of_mem_of_not_mem hc hword)]
    simp
  simp only [long, hname, hflag, List.drop_left, List.tail?_cons]

theorem long_alone {word : Text} {flag : Flag} (hword : '=' ∉ word) (hflag : ofLong? word = some flag) (state : State) :
    state.long word = state.option flag none := by
  have hname : word.takeWhile (· != '=') = word :=
    List.takeWhile_eq_self_iff.2 fun c hc => bne_iff_ne.2 (ne_of_mem_of_not_mem hc hword)
  simp only [long, hname, hflag, List.drop_length, List.tail?_nil]

theorem bind_eq_ok_iff {α β : Type} {x : Except Refusal α} {f : α → Except Refusal β} {b : β} :
    (x >>= f) = .ok b ↔ ∃ a, x = .ok a ∧ f a = .ok b := by
  cases x <;> simp [bind, Except.bind]

/-- **Letters of switches turn them on**, and the reading goes on with what stands behind them. -/
theorem Ready.letters_append (h : Ready state given) {letters : Text} {switches : List Switch}
    (hletters : AreLetters letters switches) (hadd : (switches.map Item.switch).foldlM Item.add given = .ok given') :
    ∃ state', Ready state' given' ∧ ∀ rest, State.letters (letters ++ rest) state = State.letters rest state' := by
  induction letters generalizing switches state given with
  | nil =>
    obtain rfl : switches = [] := List.map_eq_nil_iff.1 hletters
    cases hadd
    exact ⟨state, h, fun _ => rfl⟩
  | cons c letters ih =>
    obtain ⟨s, switches, rfl, hletter, hmore⟩ := areLetters_cons hletters
    rw [List.map_cons, List.foldlM_cons, bind_eq_ok_iff] at hadd
    obtain ⟨middle, hs, hrest⟩ := hadd
    obtain ⟨state', hready, hgoes⟩ := ih (ready_of middle) hmore hrest
    refine ⟨state', hready, fun rest => ?_⟩
    rw [List.cons_append, State.letters, (Switch.ofShort?_of_letter? hletter).1]
    simp only [h.option_switch hs]
    exact hgoes rest

/-- Behind letters of switches the letter of a setting takes what is attached to it. -/
theorem Ready.next_letter (h : Ready state given) {letters : Text} {switches : List Switch} {c : Char}
    (hletters : AreLetters letters switches) (hletter : s.letter? = some c)
    (hadd : (switches.map Item.switch).foldlM Item.add given = .ok given') :
    ∃ state', Ready state' given' ∧
      ∀ rest, state.next ('-' :: (letters ++ c :: rest)) = state'.option (.setting s) (attached? rest) := by
  obtain ⟨hshort, hdash⟩ := Setting.ofShort?_of_letter? hletter
  obtain ⟨state', hready, hgoes⟩ := h.letters_append hletters hadd
  refine ⟨state', hready, fun rest => ?_⟩
  have hnext : state.next ('-' :: (letters ++ c :: rest)) = state.letters (letters ++ c :: rest) := by
    cases letters with
    | nil => exact next_letters h.takesOptions hdash rest
    | cons d letters =>
      obtain ⟨t, -, -, ht, -⟩ := areLetters_cons hletters
      exact next_letters h.takesOptions (Switch.ofShort?_of_letter? ht).2 _
  rw [hnext, hgoes, State.letters, hshort]

theorem attached?_of_head? {value : Text} (hsome : value ≠ []) (hequals : value.head? ≠ some '=') :
    attached? value = some value := by
  unfold attached?
  split
  · exact absurd rfl hsome
  · exact absurd rfl hequals
  · rfl

end State

/-! ## A whole line -/

open CommandLine.State (Ready ready_of ready_pending bind_eq_ok_iff)

theorem foldlM_next_waiting {state : State} {given : Given} {s : Setting} {token value : Text} {tokens : List Text}
    (hwaits : state.next token = .ok ⟨given, some (s, none), false⟩) (hvalue : value.head? ≠ some '-') :
    (token :: value :: tokens).foldlM State.next state = tokens.foldlM State.next ⟨given, some (s, some value), false⟩ := by
  have htakes : State.next ⟨given, some (s, none), false⟩ value = .ok ⟨given, some (s, some value), false⟩ :=
    State.next_plain rfl hvalue
  simp only [List.foldlM_cons, hwaits, htakes, bind, Except.bind]

theorem foldlM_add_cluster {switches : List Switch} {s : Setting} {value : Text} {items : List Item} {given given' : Given}
    (h : (switches.map Item.switch ++ .setting s value :: items).foldlM Item.add given = .ok given') :
    ∃ before middle, (switches.map Item.switch).foldlM Item.add given = .ok before ∧
      (Item.setting s value).add before = .ok middle ∧ items.foldlM Item.add middle = .ok given' := by
  rw [List.foldlM_append, bind_eq_ok_iff] at h
  obtain ⟨before, hswitches, h⟩ := h
  rw [List.foldlM_cons, bind_eq_ok_iff] at h
  obtain ⟨middle, hsetting, hitems⟩ := h
  exact ⟨before, middle, hswitches, hsetting, hitems⟩

/-- **A line does to the reading what its items do**: where they can be given, it is read to its end. -/
theorem Spells.foldlM_next {tokens : List Text} {items : List Item} (h : Spells tokens items) {state : State}
    {given given' : Given} (hready : Ready state given) (hadd : items.foldlM Item.add given = .ok given') :
    ∃ state', tokens.foldlM State.next state = .ok state' ∧ Ready state' given' := by
  -- between two spellings the state is ready: at most a value is still to be looked at
  induction h generalizing state given with
  | nil =>
    cases hadd
    exact ⟨state, rfl, hready⟩
  | @joined s value tokens items hrest ih =>
    rw [List.foldlM_cons, bind_eq_ok_iff] at hadd
    obtain ⟨middle, hfirst, hmore⟩ := hadd
    rw [List.foldlM_cons, State.next_long hready.takesOptions (by simp),
      State.long_joined s.not_mem_word s.ofLong?_word, hready.option_value hfirst]
    exact ih (ready_of middle) hmore
  | @apart s value tokens items hvalue hrest ih =>
    rw [List.foldlM_cons, bind_eq_ok_iff] at hadd
    obtain ⟨middle, hfirst, hmore⟩ := hadd
    have hwaits : state.next ('-' :: '-' :: s.word) = .ok ⟨given, some (s, none), false⟩ := by
      rw [State.next_long hready.takesOptions s.word_ne_nil, State.long_alone s.not_mem_word s.ofLong?_word,
        hready.option_waiting]
    rw [foldlM_next_waiting hwaits hvalue]
    exact ih (ready_pending hfirst) hmore
  | @switch s tokens items hrest ih =>
    rw [List.foldlM_cons, bind_eq_ok_iff] at hadd
    obtain ⟨middle, hfirst, hmore⟩ := hadd
    rw [List.foldlM_cons, State.next_long hready.takesOptions s.word_ne_nil,
      State.long_alone s.not_mem_word s.ofLong?_word, hready.option_switch hfirst]
    exact ih (ready_of middle) hmore
  | @cluster letters switches tokens items hletters hsome hrest ih =>
    rw [List.foldlM_append, bind_eq_ok_iff] at hadd
    obtain ⟨middle, hswitches, hmore⟩ := hadd
    obtain ⟨state', hready', hgoes⟩ := hready.letters_append hletters hswitches
    have hnext : state.next ('-' :: letters) = .ok state' := by
      obtain ⟨c, rest, rfl⟩ := List.exists_cons_of_ne_nil hsome
      obtain ⟨t, -, -, ht, -⟩ := areLetters_cons hletters
      have hall := hgoes []
      rw [List.append_nil] at hall
      rw [State.next_letters hready.takesOptions (Switch.ofShort?_of_letter? ht).2, hall]
      rfl
    rw [List.foldlM_cons, hnext]
    exact ih hready' hmore
  | @letterApart letters switches s c value tokens items hletters hletter hvalue hrest ih =>
    obtain ⟨before, middle, hswitches, hfirst, hmore⟩ := foldlM_add_cluster hadd
    obtain ⟨state', hready', hgoes⟩ := hready.next_letter hletters hletter hswitches
    have hwaits : state.next ('-' :: (letters ++ [c])) = .ok ⟨before, some (s, none), false⟩ :=
      (hgoes []).trans (hready'.option_waiting s)
    rw [foldlM_next_waiting hwaits hvalue]
    exact ih (ready_pending hfirst) hmore
  | @attached letters switches s c value tokens items hletters hletter hsome hvalue hrest ih =>
    obtain ⟨before, middle, hswitches, hfirst, hmore⟩ := foldlM_add_cluster hadd
    obtain ⟨state', hready', hgoes⟩ := hready.next_letter hletters hletter hswitches
    rw [List.foldlM_cons, hgoes, State.attached?_of_head? hsome hvalue, hready'.option_value hfirst]
    exact ih (ready_of middle) hmore
  | @attachedJoined letters switches s c value tokens items hletters hletter hrest ih =>
    obtain ⟨before, middle, hswitches, hfirst, hmore⟩ := foldlM_add_cluster hadd
    obtain ⟨state', hready', hgoes⟩ := hready.next_letter hletters hletter hswitches
    have hattached : attached? ('=' :: value) = some value := rfl
    rw [List.foldlM_cons, hgoes, hattached, hready'.option_value hfirst]
    exact ih (ready_of middle) hmore

/-- What a line gives that spells out options: all of them, but perhaps not the directory and not the compiler. -/
def givenBy (options : Options) (dirGiven tscGiven : Bool) : Given where
  name := some options.name
  filename := some options.filename
  dir := if dirGiven then some options.dir else none
  tsc := if tscGiven then some options.tsc else none
  printUnit := options.printUnit
  strict := options.strict
  verbose := options.verbose
  debug := options.debug

/-- **A line means the same in every order and every spelling of its items.**  Without a compiler on it the environment
names one or it is `tsc`, and without a directory it is the current one. -/
theorem parse_of_spells (environment : Environment) {options : Options} {dirGiven tscGiven : Bool} {tokens : List Text}
    {items : List Item} (hfilename : options.filename ≠ []) (hdir : options.dir ≠ []) (hspells : Spells tokens items)
    (hitems : items.Perm (givenBy options dirGiven tscGiven).items) :
    parse environment tokens = .ok { options with
      dir := if dirGiven then options.dir else ['.']
      tsc := if tscGiven then options.tsc else environment.compiler.getD "tsc".toList } := by
  have hpaths : ∀ s value, (givenBy options dirGiven tscGiven).value? s = some value → s.isPath = true → value ≠ [] := by
    intro s value hvalue hpath
    cases s with
    | name | tsc => cases hpath
    | filename =>
      obtain rfl := Option.some.inj hvalue
      exact hfilename
    | dir =>
      cases dirGiven with
      | false => cases hvalue
      | true =>
        obtain rfl := Option.some.inj hvalue
        exact hdir
  have hadd := Item.foldlM_add_of_perm hitems hpaths
  obtain ⟨state, hread, hready⟩ := hspells.foldlM_next (ready_of .nothing) hadd
  have hsettled : parse environment tokens = (givenBy options dirGiven tscGiven).options environment := by
    unfold parse
    rw [hread]
    simp only [bind, Except.bind, hready.settled]
  rw [hsettled]
  cases dirGiven <;> cases tscGiven <;> rfl

/-- A line whose values look like options, with no compiler on it. -/
def mixedLine : List Text :=
  ["--strict".toList, "-C-v=d".toList, "-vn--n=x".toList, "--filename".toList, "f --debug".toList]

/-- The options on that line. -/
def mixedOptions : Options :=
  ⟨"--n=x".toList, "f --debug".toList, "-v=d".toList, "tsc".toList, false, true, true, false⟩

theorem parse_of_spells_mixed :
    ∃ items, Spells mixedLine items ∧ items.Perm (givenBy mixedOptions true false).items ∧ mixedOptions.filename ≠ [] ∧
      mixedOptions.dir ≠ [] ∧ parse ⟨some [], none⟩ mixedLine = .ok { mixedOptions with tsc := [] } := by
  have hspells : Spells mixedLine [.switch .strict, .setting .dir "-v=d".toList, .switch .verbose,
      .setting .name "--n=x".toList, .setting .filename "f --debug".toList] := by
    have hline : mixedLine = [('-' :: '-' :: Switch.strict.word), ('-' :: ([] ++ 'C' :: "-v=d".toList)),
        ('-' :: (['v'] ++ 'n' :: "--n=x".toList)), ('-' :: '-' :: Setting.filename.word), "f --debug".toList] := by
      decide
    rw [hline]
    have hnone : AreLetters [] [] := rfl
    have hverbose : AreLetters ['v'] [.verbose] := rfl
    exact .switch (.attached hnone rfl (by decide) (by decide)
      (.attached hverbose rfl (by decide) (by decide) (.apart (by decide) .nil)))
  have hitems : List.Perm [.switch .strict, .setting .dir "-v=d".toList, .switch .verbose,
      .setting .name "--n=x".toList, .setting .filename "f --debug".toList] (givenBy mixedOptions true false).items := by
    decide
  have hfilename : mixedOptions.filename ≠ [] := by decide
  have hdir : mixedOptions.dir ≠ [] := by decide
  exact ⟨_, hspells, hitems, hfilename, hdir, parse_of_spells ⟨some [], none⟩ hfilename hdir hspells hitems⟩

end DtsBundle.CommandLine
