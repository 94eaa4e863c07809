import TreeScribe.Proofs.Arguments.Changes
import TreeScribe.Proofs.Command.Outcome

/-!
# What options change

Two runs are compared that differ in an option or in the configuration.  The strict flag changes a
code from 0 to 1 (`run_addsStrict`), a configuration whose target is overridden counts for its
strictness alone (`run_reconfigured`), the syntax tree depends on no option of documents
(`run_sameBut`), and `-p` is `-t python` (`run_swapsPython`).
-/

namespace TreeScribe.Command

open Directory

variable {grammar : Grammar} {d d' : Directory} {a b : Arguments} {xs ys : List String}
  {outcome : Outcome}

/-! ## Two runs -/

/-- Runs that print the same are the same. -/
theorem run_congr (hxs : Arguments.read xs = .ok a) (hys : Arguments.read ys = .ok b)
    (h : ∀ outcome, Prints grammar d a outcome ↔ Prints grammar d' b outcome) :
    run grammar d' ys = run grammar d xs := by
  by_cases hprints : ∃ outcome, Prints grammar d a outcome
  · obtain ⟨outcome, hprints⟩ := hprints
    rw [run_eq_of_prints hxs hprints, run_eq_of_prints hys ((h outcome).1 hprints)]
  · have hprints' : ¬ ∃ outcome, Prints grammar d' b outcome := by
      simpa only [h] using hprints
    rw [run_eq_failure hxs hprints, run_eq_failure hys hprints']

/-- The configuration hangs on the file that is asked for alone. -/
theorem Loads.congr {c : Config} (h : Loads d a c) (hconfig : b.config? = a.config?) :
    Loads d b c := by
  rw [loads_iff] at h ⊢
  rwa [baseConfig, configPath?, hconfig]

/-! ## The strict flag -/

/-- A document is printed, some syntax in it is not understood, and the configuration puts up with
that. -/
inductive Tolerates (grammar : Grammar) (d : Directory) (a : Arguments) : Prop
  | intro {c : Config} {text : String} {root : Node} {doc : Doc} (hemit : a.emitAst = false)
      (hconfig : Loads d a c) (hstrict : c.strict = false) (hparse : Parses grammar d a text root)
      (hroot : root.kind = .sourceFile)
      (hdoc : (root.translate ⟨a.file, text.toList⟩ (schemeOf a c)).outcome = .ok doc)
      (hunknown : 0 < doc.unknownCount)

/-- The configuration and the document of a run that tolerates something. -/
theorem Tolerates.of_document {c : Config} {text : String} {root : Node} {doc : Doc}
    (h : Tolerates grammar d a) (hconfig : Loads d a c) (hparse : Parses grammar d a text root)
    (hdoc : (root.translate ⟨a.file, text.toList⟩ (schemeOf a c)).outcome = .ok doc) :
    c.strict = false ∧ 0 < doc.unknownCount := by
  obtain ⟨-, hconfig', hstrict, hparse', -, hdoc', hunknown⟩ := h
  obtain rfl := hconfig.unique hconfig'
  obtain ⟨rfl, rfl⟩ := hparse.unique hparse'
  obtain rfl := Except.ok.inj (hdoc.symm.trans hdoc')
  exact ⟨hstrict, hunknown⟩

theorem Tolerates.prints (h : Tolerates grammar d a) : ∃ outcome, Prints grammar d a outcome := by
  obtain ⟨hemit, hconfig, -, hparse, hroot, hdoc, -⟩ := h
  exact ⟨_, .document hconfig hemit hparse hroot hdoc⟩

/-- A strict run prints what another run prints, and ends with code 1 where that one tolerates
something. -/
theorem Prints.strict (h : Prints grammar d a outcome) (hstrict : a.strict = false) :
    ∃ code, Prints grammar d { a with strict := true } ⟨code, outcome.output⟩ ∧
      (Tolerates grammar d a → outcome.code = 0 ∧ code = 1) ∧
      (¬ Tolerates grammar d a → code = outcome.code) := by
  cases h with
  | tree hconfig hemit hparse =>
    refine ⟨0, .tree (hconfig.congr rfl) hemit hparse, ?_, fun _ => rfl⟩
    rintro ⟨hemit', -⟩
    exact absurd (hemit.symm.trans hemit') (by decide)
  | @document c text root doc hconfig hemit hparse hroot hdoc =>
    refine ⟨_, .document (hconfig.congr rfl) hemit hparse hroot hdoc, ?_, ?_⟩
    · intro h
      obtain ⟨hlax, hunknown⟩ := h.of_document hconfig hparse hdoc
      simp [hstrict, hlax, hunknown]
    · intro h
      by_cases hunknown : 0 < doc.unknownCount
      · have hc : c.strict = true := by
          rw [← Bool.not_eq_false]
          intro hlax
          exact h ⟨hemit, hconfig, hlax, hparse, hroot, hdoc, hunknown⟩
        simp [hc]
      · simp [hunknown]

/-- Where a strict run prints something, so does the run that is not strict. -/
theorem exists_prints_of_strict (h : Prints grammar d { a with strict := true } outcome) :
    ∃ outcome, Prints grammar d a outcome := by
  cases h with
  | tree hconfig hemit hparse => exact ⟨_, .tree (hconfig.congr rfl) hemit hparse⟩
  | document hconfig hemit hparse hroot hdoc =>
    exact ⟨_, .document (hconfig.congr rfl) hemit hparse hroot hdoc⟩

/-- **The strict flag** leaves the output as it is, and changes the code of those runs only that
tolerate something: from 0 to 1. -/
theorem run_addsStrict (hadds : Arguments.Adds (.flag .strict) xs ys)
    (hread : Arguments.read xs = .ok a) (hstrict : a.strict = false) :
    Arguments.read ys = .ok { a with strict := true } ∧
    (run grammar d ys).output = (run grammar d xs).output ∧
    ((run grammar d ys).code ≠ (run grammar d xs).code ↔ Tolerates grammar d a) ∧
    (Tolerates grammar d a → (run grammar d xs).code = 0 ∧ (run grammar d ys).code = 1) := by
  have hread' := hadds.read_strict hread hstrict
  refine ⟨hread', ?_⟩
  by_cases hprints : ∃ outcome, Prints grammar d a outcome
  · obtain ⟨outcome, hprints⟩ := hprints
    obtain ⟨code, hprints', htolerates, hother⟩ := hprints.strict hstrict
    rw [run_eq_of_prints hread hprints, run_eq_of_prints hread' hprints']
    refine ⟨rfl, ⟨fun hne => ?_, fun h => ?_⟩, htolerates⟩
    · by_contra h
      exact hne (hother h)
    · obtain ⟨hbefore, hafter⟩ := htolerates h
      simp [hbefore, hafter]
  · have hprints' : ¬ ∃ outcome, Prints grammar d { a with strict := true } outcome := by
      rintro ⟨outcome, h⟩
      exact hprints (exists_prints_of_strict h)
    have hno : ¬ Tolerates grammar d a := fun h => hprints h.prints
    rw [run_eq_failure hread hprints, run_eq_failure hread' hprints']
    exact ⟨rfl, ⟨fun hne => absurd rfl hne, fun h => absurd h hno⟩, fun h => absurd h hno⟩

/-! ## The configuration -/

/-- The directories differ in the configuration file in force alone, which is not the file of the
run, and has a configuration of the same strictness in both. -/
inductive Reconfigured (d d' : Directory) (a : Arguments) : Prop
  | intro {path text text' : String} {place : Place} {c c' : Config}
      (hpath : InForce d a (some path)) (hplace : d.locate path = .ok place)
      (hfile : d.locate a.file ≠ .ok place) (hdiffer : DifferAt d d' place)
      (htext : d.Holds path text) (hconfig : Config.ofText text.toList = .ok c)
      (htext' : d'.Holds path text') (hconfig' : Config.ofText text'.toList = .ok c')
      (hstrict : c'.strict = c.strict)

/-- The same configuration file is in force where directories differ in what a file holds. -/
theorem InForce.differAt {path? : Option String} {place : Place} (h : InForce d a path?)
    (hdiffer : DifferAt d d' place) : InForce d' a path? := by
  cases h with
  | asked hasked => exact .asked hasked
  | commented hasked hfile => exact .commented hasked (hdiffer.hasFile_iff.2 hfile)
  | plain hasked hcommented hfile =>
    exact .plain hasked (mt hdiffer.hasFile_iff.1 hcommented) (hdiffer.hasFile_iff.2 hfile)
  | none hasked hcommented hplain =>
    exact .none hasked (mt hdiffer.hasFile_iff.1 hcommented) (mt hdiffer.hasFile_iff.1 hplain)

/-- Of a configuration whose target is overridden, its strictness alone shows. -/
theorem Prints.reload {c c' : Config} (h : Prints grammar d a outcome) (hconfig : Loads d a c)
    (hconfig' : Loads d' a c') (hstrict : c'.strict = c.strict)
    (hfile : ∀ text, d.Holds a.file text → d'.Holds a.file text) (htarget : a.target? ≠ none) :
    Prints grammar d' a outcome := by
  cases h with
  | tree _ hemit hparse => exact .tree hconfig' hemit ⟨hfile _ hparse.1, hparse.2⟩
  | document hloaded hemit hparse hroot hdoc =>
    obtain rfl := hloaded.unique hconfig
    have hscheme : schemeOf a c' = schemeOf a c := by
      obtain ⟨t, ht⟩ := Option.ne_none_iff_exists'.1 htarget
      rw [schemeOf, schemeOf, ht]
      rfl
    rw [← hscheme] at hdoc
    rw [← hstrict]
    exact .document hconfig' hemit ⟨hfile _ hparse.1, hparse.2⟩ hroot hdoc

/-- **Another configuration of the same strictness** does not show if a target is asked for. -/
theorem run_reconfigured (h : Reconfigured d d' a) (hread : Arguments.read xs = .ok a)
    (htarget : a.target? ≠ none) : run grammar d' xs = run grammar d xs := by
  obtain ⟨hpath, hplace, hfile, hdiffer, htext, hconfig, htext', hconfig', hstrict⟩ := h
  have hloads := Loads.file hpath htext hconfig
  have hloads' := Loads.file (hpath.differAt hdiffer) htext' hconfig'
  refine run_congr hread hread fun outcome => ⟨fun h => ?_, fun h => ?_⟩
  · exact h.reload hloads hloads' hstrict (fun text => (hdiffer.stands_iff hfile).2) htarget
  · exact h.reload hloads' hloads hstrict.symm (fun text => (hdiffer.stands_iff hfile).1) htarget

/-! ## The syntax tree -/

/-- A syntax tree is printed alike by runs that agree in their file and configuration. -/
theorem Prints.tree_congr (h : Prints grammar d a outcome) (hemit : a.emitAst = true)
    (hfile : b.file = a.file) (hconfig : b.config? = a.config?) (hemit' : b.emitAst = true) :
    Prints grammar d b outcome := by
  cases h with
  | tree hloaded _ hparse =>
    rw [Parses, ← hfile] at hparse
    exact .tree (hloaded.congr hconfig) hemit' hparse
  | document _ hno => exact absurd (hemit.symm.trans hno) (by decide)

/-- **A syntax tree** does not depend on what concerns documents. -/
theorem run_sameBut (h : Arguments.SameBut Arguments.Item.concernsDocument xs ys)
    (hxs : Arguments.read xs = .ok a) (hys : Arguments.read ys = .ok b)
    (hemit : a.emitAst = true) : run grammar d ys = run grammar d xs := by
  obtain ⟨hfile, hconfig, hemit'⟩ := h.agree hxs hys
  rw [hemit] at hemit'
  exact run_congr hxs hys fun outcome =>
    ⟨fun h => h.tree_congr hemit hfile hconfig hemit',
      fun h => h.tree_congr hemit' hfile.symm hconfig.symm hemit⟩

/-! ## Options -/

/-- **Options interfere as documented.**  In every directory, for arguments that ask for a run:
the strict flag changes no output, and a code only from 0 to 1, exactly where a document is printed
and its faults are tolerated; with a target, a configuration counts for its strictness alone; with
the syntax tree, targets and the strict flag do not matter; and the flag for the target `python` is
the same as its name. -/
theorem run_options_interfere (grammar : Grammar) (d : Directory) {xs : List String}
    {a : Arguments} (hread : Arguments.read xs = .ok a) :
    (∀ ys, Arguments.Adds (.flag .strict) xs ys → a.strict = false →
      Arguments.read ys = .ok { a with strict := true } ∧
      (run grammar d ys).output = (run grammar d xs).output ∧
      ((run grammar d ys).code ≠ (run grammar d xs).code ↔ Tolerates grammar d a) ∧
      (Tolerates grammar d a → (run grammar d xs).code = 0 ∧ (run grammar d ys).code = 1)) ∧
    (∀ d', Reconfigured d d' a → a.target? ≠ none → run grammar d' xs = run grammar d xs) ∧
    (∀ ys b, Arguments.SameBut Arguments.Item.concernsDocument xs ys →
      Arguments.read ys = .ok b → a.emitAst = true → run grammar d ys = run grammar d xs) ∧
    (∀ ys, Arguments.Swaps (.flag .python) (.setting .target "python") xs ys ∨
        Arguments.Swaps (.setting .target "python") (.flag .python) xs ys →
      Arguments.read ys = .ok a ∧ run grammar d ys = run grammar d xs) := by
  refine ⟨fun ys hadds => run_addsStrict hadds hread, fun d' h => run_reconfigured h hread,
    fun ys b h => run_sameBut h hread, fun ys hswaps => ?_⟩
  have hread' : Arguments.read ys = .ok a := by
    rcases hswaps with hswaps | hswaps
    · exact hswaps.read_python_iff.1 hread
    · exact hswaps.symm.read_python_iff.2 hread
  exact ⟨hread', run_congr hread hread' fun outcome => Iff.rfl⟩

/-- What differs is the configuration file. -/
theorem differAt_configuredBy (config config' : String) :
    DifferAt (configuredBy config) (configuredBy config') [".tsxlate.json".toList] := by
  refine ⟨rfl, ⟨config.toUTF8, rfl⟩, ⟨config'.toUTF8, rfl⟩, ?_⟩
  intro other hother
  have hlookup : (other == [".tsxlate.json".toList]) = false := beq_false_of_ne hother
  unfold entry?
  simp only [configuredBy, List.lookup_cons, List.lookup_nil, hlookup, List.any]

/-- A configuration for the plain notation. -/
def plainConfig : String := "\x7b \"target\": \"default\" \x7d"

/-- A configuration for another target than the one that is asked for, and one that asks for
nothing. -/
theorem run_options_interfere_configuredBy :
    run debuggerGrammar (configuredBy plainConfig) ["a.ts", "--strict", "-p"] =
      ⟨1, "(debugger_statement debugger;)\n  debugger\n"⟩ ∧
    run debuggerGrammar (configuredBy "\x7b \x7d") ["a.ts", "-p"] =
      run debuggerGrammar (configuredBy plainConfig) ["a.ts", "-p"] ∧
    run debuggerGrammar (configuredBy plainConfig) ["a.ts", "-t", "python"] =
      run debuggerGrammar (configuredBy plainConfig) ["a.ts", "-p"] ∧
    run debuggerGrammar (configuredBy "\x7b \x7d") ["--strict", "--emit-ast", "a.ts"] =
      run debuggerGrammar (configuredBy "\x7b \x7d") ["a.ts", "-p", "--emit-ast"] := by
  have hread : Arguments.read ["a.ts", "-p"] =
      .ok ⟨"a.ts", some .python, none, false, false, false⟩ := by rfl
  have hemitting : Arguments.read ["a.ts", "-p", "--emit-ast"] =
      .ok ⟨"a.ts", some .python, none, false, true, false⟩ := by rfl
  have hconfig : Config.ofText plainConfig.toList = .ok ⟨.plain, false⟩ := by rfl
  have hempty : Config.ofText "\x7b \x7d".toList = .ok ⟨.outline, false⟩ := by rfl
  have hloads : Loads (configuredBy plainConfig)
      ⟨"a.ts", some .python, none, false, false, false⟩ ⟨.plain, false⟩ :=
    .file (inForce_configuredBy rfl) (holds_configuredBy _) hconfig
  have hparse : Parses debuggerGrammar (configuredBy plainConfig)
      ⟨"a.ts", some .python, none, false, false, false⟩ "debugger;" debuggerTree.toNode :=
    ⟨⟨["a.ts".toList], rfl, rfl⟩, by rfl⟩
  have hreconfigured : Reconfigured (configuredBy plainConfig) (configuredBy "\x7b \x7d")
      ⟨"a.ts", some .python, none, false, false, false⟩ :=
    ⟨inForce_configuredBy rfl, rfl, by decide, differAt_configuredBy _ _, holds_configuredBy _,
      hconfig, holds_configuredBy _, hempty, rfl⟩
  have hsame : Arguments.SameBut Arguments.Item.concernsDocument ["a.ts", "-p", "--emit-ast"]
      ["--strict", "--emit-ast", "a.ts"] :=
    ⟨rfl, rfl, by decide⟩
  obtain ⟨hstrict, hconfigured, -, hnamed⟩ := run_options_interfere debuggerGrammar
    (configuredBy plainConfig) hread
  obtain ⟨-, -, htree, -⟩ := run_options_interfere debuggerGrammar (configuredBy "\x7b \x7d")
    hemitting
  refine ⟨?_, hconfigured _ hreconfigured (by decide), ?_, htree _ _ hsame (by rfl) rfl⟩
  · have hadds : Arguments.Adds (.flag .strict) (["a.ts"] ++ ["-p"])
        (["a.ts"] ++ "--strict" :: ["-p"]) :=
      Arguments.adds_strict (by decide) rfl rfl
    have htolerates : Tolerates debuggerGrammar (configuredBy plainConfig)
        ⟨"a.ts", some .python, none, false, false, false⟩ :=
      ⟨rfl, hloads, rfl, hparse, by decide, by rfl, by decide⟩
    obtain ⟨-, houtput, -, hcodes⟩ := hstrict _ hadds rfl
    have hcode := (hcodes htolerates).2
    rw [run_eq_of_prints hread (.document hloads rfl hparse (by decide) (by rfl))] at houtput
    exact (congrArg₂ Outcome.mk hcode houtput).trans (by decide)
  · have hswaps : Arguments.Swaps (.flag .python) (.setting .target "python") (["a.ts"] ++ ["-p"])
        (["a.ts"] ++ ["-t", "python"]) :=
      Arguments.swaps_python (by decide) rfl rfl
    exact (hnamed _ (.inl hswaps)).2

end TreeScribe.Command
