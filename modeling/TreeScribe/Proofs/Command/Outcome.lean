import TreeScribe.Command
import TreeScribe.Proofs.ConcreteTree.Fault
import TreeScribe.Proofs.Directory.Reading
import TreeScribe.Proofs.Translate.Conformant
import TreeScribe.Proofs.Translate.Log

/-!
# What a run leaves behind

A run either fails, or it prints one text and a line break (`Prints`).  Main statements: a run
prints what the directory says it prints (`run_eq_of_prints`), and it fails exactly if the
configuration cannot be loaded, the file cannot be read or parsed, or its document cannot be made
(`run_prints_all_or_nothing`).
-/

namespace TreeScribe

open Traced Directory

/-- Every tree of the grammar is a program, or wholly an error. -/
def Grammar.MakesPrograms (grammar : Grammar) : Prop :=
  ∀ source t, grammar source = some t → t.IsNamed "program" ∨ t.IsFault

/-- A parsed program is a source file. -/
theorem kind_of_parse {grammar : Grammar} (hgrammar : grammar.MakesPrograms) {source : List Char}
    {root : Node} (h : (Parser.typeScript grammar).parse source = .ok root) :
    root.kind = .sourceFile := by
  cases hsource : grammar source with
  | none => simp [Parser.typeScript, hsource] at h
  | some t =>
    rw [ConcreteTree.parse_eq hsource] at h
    cases hfault : t.firstFault? with
    | some fault =>
      rw [hfault] at h
      cases h
    | none =>
      rw [hfault] at h
      obtain rfl : t.toNode = root := Except.ok.inj h
      rcases hgrammar source t hsource with hprogram | herror
      · exact ConcreteTree.kind_toNode_of_isNamed_program hprogram
      · rw [herror.firstFault?_eq] at hfault
        cases hfault

/-- A file translates if it is parsed as a source file whose nodes translate. -/
theorem SourceFile.outcome_translate_eq_ok_iff {file : SourceFile} {parser : Parser}
    {scheme : Scheme} {doc : Doc} :
    (file.translate parser scheme).outcome = .ok doc ↔
      ∃ root, parser.parse file.text = .ok root ∧ root.kind = .sourceFile ∧
        (root.translate file scheme).outcome = .ok doc := by
  rw [SourceFile.translate_eq]
  cases parser.parse file.text with
  | error e => simp
  | ok root =>
    by_cases hkind : root.kind = .sourceFile
    · cases houtcome : (root.translate file scheme).outcome <;> simp [hkind, houtcome]
    · simp [hkind]

namespace Command

variable {d : Directory} {a : Arguments} {c : Config} {grammar : Grammar}

/-! ## Configurations -/

/-- The configuration file in force: the one that is asked for, or else the first of two that is
there. -/
inductive InForce (d : Directory) (a : Arguments) : Option String → Prop
  | asked {path : String} (hasked : a.config? = some path) : InForce d a (some path)
  | commented (hasked : a.config? = none) (hfile : d.HasFile ".tsxlate.jsonc") :
      InForce d a (some ".tsxlate.jsonc")
  | plain (hasked : a.config? = none) (hcommented : ¬ d.HasFile ".tsxlate.jsonc")
      (hfile : d.HasFile ".tsxlate.json") : InForce d a (some ".tsxlate.json")
  | none (hasked : a.config? = none) (hcommented : ¬ d.HasFile ".tsxlate.jsonc")
      (hplain : ¬ d.HasFile ".tsxlate.json") : InForce d a none

/-- The configuration of a run: that of the file in force, or without one the standard one. -/
inductive Loads (d : Directory) (a : Arguments) : Config → Prop
  | file {path text : String} {c : Config} (hpath : InForce d a (some path))
      (htext : d.Holds path text) (hconfig : Config.ofText text.toList = .ok c) : Loads d a c
  | standard (hpath : InForce d a none) : Loads d a ⟨.outline, false⟩

/-- Which configuration file is in force. -/
theorem inForce_configPath? (d : Directory) (a : Arguments) : InForce d a (configPath? d a) := by
  unfold configPath? Config.discover?
  cases hasked : a.config? with
  | some path => exact .asked hasked
  | none =>
    have hjoin : Config.fileNames.map (Path.join "") = [".tsxlate.jsonc", ".tsxlate.json"] := by
      decide
    rw [hjoin]
    by_cases hcommented : d.HasFile ".tsxlate.jsonc"
    · simp only [List.find?_cons, isFile_iff.2 hcommented]
      exact .commented hasked hcommented
    · have hno : d.isFile ".tsxlate.jsonc" = false := by
        rw [Bool.eq_false_iff, ne_eq, isFile_iff]
        exact hcommented
      by_cases hplain : d.HasFile ".tsxlate.json"
      · simp only [List.find?_cons, hno, isFile_iff.2 hplain]
        exact .plain hasked hcommented hplain
      · have hno' : d.isFile ".tsxlate.json" = false := by
          rw [Bool.eq_false_iff, ne_eq, isFile_iff]
          exact hplain
        simp only [List.find?_cons, hno, hno', List.find?_nil]
        exact .none hasked hcommented hplain

/-- No two configuration files are in force, nor one and none. -/
theorem InForce.unique {path? other? : Option String} (h : InForce d a path?)
    (h' : InForce d a other?) : path? = other? := by
  cases h <;> cases h' <;> simp_all

theorem inForce_iff {path? : Option String} : InForce d a path? ↔ configPath? d a = path? := by
  constructor
  · intro h
    exact (inForce_configPath? d a).unique h
  · rintro rfl
    exact inForce_configPath? d a

theorem outcome_load_eq_ok_iff {path : String} :
    (Config.load d path).outcome = .ok c ↔
      ∃ text, d.Holds path text ∧ Config.ofText text.toList = .ok c := by
  simp only [← read_eq_ok_iff]
  unfold Config.load
  cases d.read path with
  | error e => simp
  | ok text =>
    rw [outcome_bind_eq_ok_iff]
    cases hconfig : Config.ofText text.toList <;> simp [hconfig, Except.mapError]

/-- A configuration is loaded from the file in force. -/
theorem loads_iff : Loads d a c ↔ (baseConfig d a).outcome = .ok c := by
  have hforce := inForce_configPath? d a
  unfold baseConfig
  cases hpath : configPath? d a with
  | none =>
    rw [hpath] at hforce
    constructor
    · rintro (⟨hfile, -, -⟩ | hstandard)
      · exact absurd (hforce.unique hfile) (by simp)
      · rfl
    · intro h
      obtain rfl : Config.standard = c := Except.ok.inj h
      exact .standard hforce
  | some path =>
    rw [hpath] at hforce
    rw [outcome_load_eq_ok_iff]
    constructor
    · rintro (⟨hfile, htext, hconfig⟩ | hstandard)
      · obtain rfl := Option.some.inj (hforce.unique hfile)
        exact ⟨_, htext, hconfig⟩
      · exact absurd (hforce.unique hstandard) (by simp)
    · rintro ⟨text, htext, hconfig⟩
      exact .file hforce htext hconfig

theorem Loads.unique {other : Config} (h : Loads d a c) (h' : Loads d a other) : other = c := by
  rw [loads_iff] at h h'
  exact Except.ok.inj (h'.symm.trans h)

/-! ## Runs -/

/-- The file is parsed as `root`. -/
def Parses (grammar : Grammar) (d : Directory) (a : Arguments) (text : String) (root : Node) :
    Prop :=
  d.Holds a.file text ∧ (Parser.typeScript grammar).parse text.toList = .ok root

/-- The scheme of a run: that of the target in the arguments, or else in the configuration. -/
def schemeOf (a : Arguments) (c : Config) : Scheme := (a.target?.getD c.target).scheme

/-- What a run prints: the syntax tree of its file, or the document of the tree.  Syntax that is not
understood makes a strict run end with another code. -/
inductive Prints (grammar : Grammar) (d : Directory) (a : Arguments) : Outcome → Prop
  | tree {c : Config} {text : String} {root : Node} (hconfig : Loads d a c)
      (hemit : a.emitAst = true) (hparse : Parses grammar d a text root) :
      Prints grammar d a ⟨0, String.ofList root.toJson.pretty ++ "\n"⟩
  | document {c : Config} {text : String} {root : Node} {doc : Doc} (hconfig : Loads d a c)
      (hemit : a.emitAst = false) (hparse : Parses grammar d a text root)
      (hroot : root.kind = .sourceFile)
      (hdoc : (root.translate ⟨a.file, text.toList⟩ (schemeOf a c)).outcome = .ok doc) :
      Prints grammar d a
        ⟨if (a.strict = true ∨ c.strict = true) ∧ 0 < doc.unknownCount then 1 else 0,
          String.ofList doc.render ++ "\n"⟩

theorem outcome_astText_eq_ok_iff {json : List Char} :
    (astText d (.typeScript grammar) a.file).outcome = .ok json ↔
      ∃ text root, Parses grammar d a text root ∧ root.toJson.pretty = json := by
  unfold Parses
  simp only [← read_eq_ok_iff]
  unfold astText
  cases d.read a.file with
  | error e => simp
  | ok text =>
    rw [outcome_bind_eq_ok_iff]
    cases hparse : (Parser.typeScript grammar).parse text.toList <;> simp [hparse, Except.mapError]

theorem outcome_translate_eq_ok_iff {scheme : Scheme} {doc : Doc} :
    (d.translate (.typeScript grammar) a.file scheme).outcome = .ok doc ↔
      ∃ text root, Parses grammar d a text root ∧ root.kind = .sourceFile ∧
        (root.translate ⟨a.file, text.toList⟩ scheme).outcome = .ok doc := by
  unfold Parses
  simp only [← read_eq_ok_iff]
  unfold Directory.translate
  cases d.read a.file with
  | error e => simp
  | ok text => simp [SourceFile.outcome_translate_eq_ok_iff]

theorem exitCode_adjusted (doc : Doc) :
    exitCode (adjusted a c) doc =
      if (a.strict = true ∨ c.strict = true) ∧ 0 < doc.unknownCount then 1 else 0 := by
  simp [exitCode, adjusted, Nat.pos_iff_ne_zero]

/-- **A run has an outcome if it prints one.** -/
theorem outcome_runWith_eq_ok_iff {outcome : Outcome} :
    (runWith grammar d a).outcome = .ok outcome ↔ Prints grammar d a outcome := by
  rw [runWith, outcome_bind_eq_ok_iff]
  simp only [← loads_iff]
  cases hemit : a.emitAst with
  | true =>
    simp only [if_true, outcome_bind_eq_ok_iff, outcome_astText_eq_ok_iff, outcome_pure,
      Except.ok.injEq]
    constructor
    · rintro ⟨c, hconfig, json, ⟨text, root, hparse, rfl⟩, rfl⟩
      exact .tree hconfig hemit hparse
    · rintro (⟨hconfig, -, hparse⟩ | ⟨-, hemit', -⟩)
      · exact ⟨_, hconfig, _, ⟨_, _, hparse, rfl⟩, rfl⟩
      · simp [hemit] at hemit'
  | false =>
    simp only [Bool.false_eq_true, if_false, outcome_bind_eq_ok_iff, outcome_translate_eq_ok_iff,
      outcome_pure, Except.ok.injEq]
    constructor
    · rintro ⟨c, hconfig, doc, ⟨text, root, hparse, hroot, hdoc⟩, rfl⟩
      rw [exitCode_adjusted]
      exact .document hconfig hemit hparse hroot hdoc
    · rintro (⟨-, hemit', -⟩ | ⟨hconfig, -, hparse, hroot, hdoc⟩)
      · simp [hemit] at hemit'
      · refine ⟨_, hconfig, _, ⟨_, _, hparse, hroot, hdoc⟩, ?_⟩
        rw [exitCode_adjusted]
        rfl

/-- A run prints one thing. -/
theorem Prints.unique {outcome other : Outcome} (h : Prints grammar d a outcome)
    (h' : Prints grammar d a other) : other = outcome := by
  rw [← outcome_runWith_eq_ok_iff] at h h'
  exact Except.ok.inj (h'.symm.trans h)

/-! ## Outcomes -/

/-- Why a run fails.  The configuration counts whatever the flags say; the document counts only if
one is asked for. -/
inductive Fails (grammar : Grammar) (d : Directory) (a : Arguments) : Prop
  | notLoaded (hconfig : ¬ ∃ c, Loads d a c)
  | notRead (htext : ¬ ∃ text, d.Holds a.file text)
  | notParsed {text : String} {e : ParseError} (htext : d.Holds a.file text)
      (hparse : (Parser.typeScript grammar).parse text.toList = .error e)
  | notTranslated {c : Config} {text : String} {root : Node} {e : TranslateError}
      (hemit : a.emitAst = false) (hconfig : Loads d a c) (hparse : Parses grammar d a text root)
      (hdoc : (root.translate ⟨a.file, text.toList⟩ (schemeOf a c)).outcome = .error e)

theorem Parses.unique {text other : String} {root root' : Node} (h : Parses grammar d a text root)
    (h' : Parses grammar d a other root') : other = text ∧ root' = root := by
  obtain rfl := h.1.unique h'.1
  exact ⟨rfl, Except.ok.inj (h'.2.symm.trans h.2)⟩

/-- A run that prints does not fail. -/
theorem Prints.not_fails {outcome : Outcome} (h : Prints grammar d a outcome) :
    ¬ Fails grammar d a := by
  obtain ⟨c, text, root, hconfig, hparse, hdoc⟩ : ∃ c text root, Loads d a c ∧
      Parses grammar d a text root ∧ (a.emitAst = false → ∃ doc,
        (root.translate ⟨a.file, text.toList⟩ (schemeOf a c)).outcome = .ok doc) := by
    cases h with
    | tree hconfig hemit hparse => exact ⟨_, _, _, hconfig, hparse, by simp [hemit]⟩
    | document hconfig _ hparse _ hdoc => exact ⟨_, _, _, hconfig, hparse, fun _ => ⟨_, hdoc⟩⟩
  rintro (hconfig' | htext' | ⟨htext', hparse'⟩ | ⟨hemit, hconfig', hparse', hdoc'⟩)
  · exact hconfig' ⟨c, hconfig⟩
  · exact htext' ⟨text, hparse.1⟩
  · obtain rfl := hparse.1.unique htext'
    exact absurd (hparse.2.symm.trans hparse') (by simp)
  · obtain ⟨rfl, rfl⟩ := hparse.unique hparse'
    obtain rfl := hconfig.unique hconfig'
    obtain ⟨doc, hdoc⟩ := hdoc hemit
    exact absurd (hdoc.symm.trans hdoc') (by simp)

/-- A run that does not fail prints. -/
theorem exists_prints (hgrammar : grammar.MakesPrograms) (h : ¬ Fails grammar d a) :
    ∃ outcome, Prints grammar d a outcome := by
  obtain ⟨c, hconfig⟩ : ∃ c, Loads d a c := by
    by_contra hconfig
    exact h (.notLoaded hconfig)
  obtain ⟨text, htext⟩ : ∃ text, d.Holds a.file text := by
    by_contra htext
    exact h (.notRead htext)
  cases hparse : (Parser.typeScript grammar).parse text.toList with
  | error e => exact absurd (.notParsed htext hparse) h
  | ok root =>
    cases hemit : a.emitAst with
    | true => exact ⟨_, .tree hconfig hemit ⟨htext, hparse⟩⟩
    | false =>
      cases hdoc : (root.translate ⟨a.file, text.toList⟩ (schemeOf a c)).outcome with
      | error e => exact absurd (.notTranslated hemit hconfig ⟨htext, hparse⟩ hdoc) h
      | ok doc =>
        exact ⟨_, .document hconfig hemit ⟨htext, hparse⟩ (kind_of_parse hgrammar hparse) hdoc⟩

theorem Prints.code_ne_two {outcome : Outcome} (h : Prints grammar d a outcome) :
    outcome.code ≠ 2 := by
  cases h with
  | tree => simp
  | document =>
    dsimp only
    split <;> decide

theorem run_eq_of_prints {arguments : List String} {outcome : Outcome}
    (harguments : Arguments.read arguments = .ok a) (h : Prints grammar d a outcome) :
    run grammar d arguments = outcome := by
  simp only [run, harguments, outcome_runWith_eq_ok_iff.2 h]

theorem run_eq_failure {arguments : List String} (harguments : Arguments.read arguments = .ok a)
    (h : ¬ ∃ outcome, Prints grammar d a outcome) : run grammar d arguments = ⟨2, ""⟩ := by
  cases houtcome : (runWith grammar d a).outcome with
  | error e =>
    simp only [run, harguments, houtcome]
    rfl
  | ok outcome => exact absurd ⟨outcome, outcome_runWith_eq_ok_iff.1 houtcome⟩ h

theorem mem_events_bind {α β : Type} {x : Traced α} {f : α → Traced β} {e : Event}
    (h : e ∈ x.events) : e ∈ (x >>= f).events := by
  cases houtcome : x.outcome with
  | error e => rwa [bind_of_error houtcome]
  | ok b =>
    rw [bind_of_ok houtcome]
    exact List.mem_append_left _ h

/-- The configuration file in force is loaded in every run, also where flags override all that it
says. -/
theorem configLoaded_mem_events {path text : String} (hpath : InForce d a (some path))
    (htext : d.Holds path text) : .configLoaded path ∈ (runWith grammar d a).events := by
  rw [inForce_iff] at hpath
  rw [← read_eq_ok_iff] at htext
  refine mem_events_bind ?_
  rw [baseConfig, hpath]
  dsimp only
  rw [Config.load, htext]
  exact mem_events_bind (List.mem_singleton_self _)

/-- **No partial output.**  Arguments that ask for a run end with code 2 exactly if the run fails,
and then nothing is printed.  Every other run prints one text and a line break: the syntax tree,
with code 0, or the document, with code 1 if the run is strict and some syntax was not understood,
and else 0.  The configuration in force is loaded whatever the flags say. -/
theorem run_prints_all_or_nothing {grammar : Grammar} (hgrammar : grammar.MakesPrograms)
    (d : Directory) {arguments : List String} {a : Arguments}
    (harguments : Arguments.read arguments = .ok a) :
    ((run grammar d arguments).code = 2 ↔ Fails grammar d a) ∧
    (Fails grammar d a → run grammar d arguments = ⟨2, ""⟩) ∧
    (¬ Fails grammar d a → Prints grammar d a (run grammar d arguments)) ∧
    ∀ path text, InForce d a (some path) → d.Holds path text →
      .configLoaded path ∈ (runWith grammar d a).events := by
  have hfails (h : Fails grammar d a) : run grammar d arguments = ⟨2, ""⟩ := by
    refine run_eq_failure harguments ?_
    rintro ⟨outcome, hprints⟩
    exact hprints.not_fails h
  have hprints (h : ¬ Fails grammar d a) : Prints grammar d a (run grammar d arguments) := by
    obtain ⟨outcome, hprints⟩ := exists_prints hgrammar h
    rwa [run_eq_of_prints harguments hprints]
  refine ⟨⟨?_, ?_⟩, hfails, hprints, fun _ _ => configLoaded_mem_events⟩
  · intro hcode
    by_contra h
    exact (hprints h).code_ne_two hcode
  · intro h
    rw [hfails h]

/-- `debugger;`, a statement that no scheme understands. -/
def debuggerTree : ConcreteTree :=
  let node (kind : String) (start stop : Nat) (named : Bool) :
      List ConcreteTree → ConcreteTree :=
    .mk ⟨kind, start, stop, none, named, false, false, false, false⟩
  node "program" 0 9 true
    [node "debugger_statement" 0 9 true
      [node "debugger" 0 8 false [], node ";" 8 9 false []]]

/-- The grammar for that one source. -/
def debuggerGrammar : Grammar := fun source =>
  if source = "debugger;".toList then some debuggerTree else none

/-- A file beside a directory that is named like a configuration file, and a configuration file with
this text. -/
def configuredBy (config : String) : Directory :=
  ⟨[], [([".tsxlate.jsonc".toList], .directory),
    ([".tsxlate.json".toList], .file config.toUTF8),
    (["a.ts".toList], .file "debugger;".toUTF8)]⟩

theorem makesPrograms_debuggerGrammar : debuggerGrammar.MakesPrograms := by
  intro source t h
  unfold debuggerGrammar at h
  split at h
  · obtain rfl := Option.some.inj h
    exact .inl (by decide)
  · cases h

theorem inForce_configuredBy {config : String} (hasked : a.config? = none) :
    InForce (configuredBy config) a (some ".tsxlate.json") := by
  refine .plain hasked ?_ ⟨_, [".tsxlate.json".toList], rfl, rfl⟩
  rw [← isFile_iff, Bool.not_eq_true]
  rfl

theorem holds_configuredBy (config : String) :
    (configuredBy config).Holds ".tsxlate.json" config :=
  ⟨[".tsxlate.json".toList], rfl, rfl⟩

theorem loads_configuredBy {config : String} {c : Config} (hasked : a.config? = none)
    (hconfig : Config.ofText config.toList = .ok c) : Loads (configuredBy config) a c :=
  .file (inForce_configuredBy hasked) (holds_configuredBy config) hconfig

theorem parses_configuredBy (config : String) (hfile : a.file = "a.ts") :
    Parses debuggerGrammar (configuredBy config) a "debugger;" debuggerTree.toNode := by
  rw [Parses, hfile]
  exact ⟨⟨["a.ts".toList], rfl, rfl⟩, by rfl⟩

/-- The syntax tree of `debugger;` as JSON text, line by line. -/
def debuggerJson : List Char :=
  ['\n'].intercalate <| List.map String.toList
    ["\x7b", "  \"type\": \"SourceFile\",", "  \"range\": [", "    0,", "    9", "  ],",
      "  \"children\": [", "    \x7b", "      \"type\": \"SyntaxList\",", "      \"range\": [",
      "        0,", "        9", "      ],", "      \"children\": [", "        \x7b",
      "          \"type\": \"debugger_statement\",", "          \"range\": [", "            0,",
      "            9", "          ],", "          \"children\": [", "            \x7b",
      "              \"type\": \"Token\",", "              \"range\": [", "                0,",
      "                8", "              ]", "            \x7d,", "            \x7b",
      "              \"type\": \"Punctuation\",", "              \"range\": [",
      "                8,", "                9", "              ]", "            \x7d",
      "          ]", "        \x7d", "      ]", "    \x7d", "  ]", "\x7d"]

/-- A strict configuration makes a run end with code 1, unless the run prints the syntax tree, and a
faulty one makes it fail, although flags set all that a configuration can set. -/
theorem run_prints_all_or_nothing_configuredBy :
    debuggerGrammar.MakesPrograms ∧
    Arguments.read ["a.ts", "-tpython"] = .ok ⟨"a.ts", some .python, none, false, false, false⟩ ∧
    Arguments.read ["--emit-ast", "a.ts"] = .ok ⟨"a.ts", none, none, false, true, false⟩ ∧
    Arguments.read ["-p", "--strict", "a.ts"] =
      .ok ⟨"a.ts", some .python, none, true, false, false⟩ ∧
    run debuggerGrammar (configuredBy "\x7b \"strict\": true \x7d") ["a.ts", "-tpython"] =
      ⟨1, "(debugger_statement debugger;)\n  debugger\n"⟩ ∧
    run debuggerGrammar (configuredBy "\x7b \"strict\": true \x7d") ["--emit-ast", "a.ts"] =
      ⟨0, String.ofList debuggerJson ++ "\n"⟩ ∧
    run debuggerGrammar (configuredBy "\x7b \"strict\": 1 \x7d") ["-p", "--strict", "a.ts"] =
      ⟨2, ""⟩ := by
  have harguments : Arguments.read ["a.ts", "-tpython"] =
      .ok ⟨"a.ts", some .python, none, false, false, false⟩ := by rfl
  have hemitting : Arguments.read ["--emit-ast", "a.ts"] =
      .ok ⟨"a.ts", none, none, false, true, false⟩ := by rfl
  have hoverriding : Arguments.read ["-p", "--strict", "a.ts"] =
      .ok ⟨"a.ts", some .python, none, true, false, false⟩ := by rfl
  have hstrict : Config.ofText "\x7b \"strict\": true \x7d".toList = .ok ⟨.outline, true⟩ := by rfl
  have hall {config : String} {arguments : List String} {a : Arguments}
      (h : Arguments.read arguments = .ok a) :=
    run_prints_all_or_nothing makesPrograms_debuggerGrammar (configuredBy config) h
  refine ⟨makesPrograms_debuggerGrammar, harguments, hemitting, hoverriding, ?_, ?_, ?_⟩
  · have hprints : Prints debuggerGrammar (configuredBy "\x7b \"strict\": true \x7d")
        ⟨"a.ts", some .python, none, false, false, false⟩ _ :=
      .document (loads_configuredBy rfl hstrict) rfl (parses_configuredBy _ rfl) (by decide)
        (by rfl)
    have hrun := (hall harguments).2.2.1 hprints.not_fails
    exact (hprints.unique hrun).trans (by decide)
  · have hprints : Prints debuggerGrammar (configuredBy "\x7b \"strict\": true \x7d")
        ⟨"a.ts", none, none, false, true, false⟩ _ :=
      .tree (loads_configuredBy rfl hstrict) rfl (parses_configuredBy _ rfl)
    have hrun := (hall hemitting).2.2.1 hprints.not_fails
    have hjson : debuggerTree.toNode.toJson.pretty = debuggerJson := by decide +kernel
    rw [hprints.unique hrun, hjson]
  · have hfails : Fails debuggerGrammar (configuredBy "\x7b \"strict\": 1 \x7d")
        ⟨"a.ts", some .python, none, true, false, false⟩ := by
      refine .notLoaded ?_
      rintro ⟨c, ⟨hpath, htext, hconfig⟩ | hpath⟩
      · obtain rfl := Option.some.inj ((inForce_configuredBy rfl).unique hpath)
        obtain rfl := (holds_configuredBy _).unique htext
        have herror : Config.ofText "\x7b \"strict\": 1 \x7d".toList =
            .error (.wrongType (.integer 1) "a boolean") := by rfl
        exact absurd (herror.symm.trans hconfig) (by simp)
      · exact absurd ((inForce_configuredBy rfl).unique hpath) (by simp)
    exact (hall hoverriding).2.1 hfails

end Command

end TreeScribe
