import TreeScribe.Node.Json
import TreeScribe.Proofs.Json.Blanks
import TreeScribe.Proofs.Json.Reading
import TreeScribe.Proofs.Node.Descendants

/-!
# What the JSON of a tree tells

The JSON of a tree leaves out which nodes are named, and of a kind it keeps the name, which a kind
of the grammar's own may share with a closed one.  Trees that differ in nothing else match.

Main statement: the compact and the pretty text of a tree denote one value and differ in white space
alone, and trees have the same value, the same compact text or the same pretty text exactly if they
match (`toJson_tells`).
-/

namespace TreeScribe.Node

open Json

/-- The kinds are equal, or one of them is the grammar's own and has the name of the other. -/
def SameButOwn (k l : Kind) : Prop := k = l ∨ k = .other l.name ∨ l = .other k.name

/-- Two trees match: nodes at the same place have the same kind name, span and field, and the same
kind, unless one of the two kinds is the grammar's own. -/
inductive Matches : Node → Node → Prop
  | node {n m : Node} (hname : n.kind.name = m.kind.name) (hkind : SameButOwn n.kind m.kind)
      (hspan : n.span = m.span) (hfield : n.field? = m.field?)
      (hchildren : List.Forall₂ Matches n.children m.children) : Matches n m

/-- Where the names are the same, the kinds are so too, but for the grammar's own. -/
theorem matches_iff {n m : Node} :
    Matches n m ↔ n.kind.name = m.kind.name ∧ n.span = m.span ∧ n.field? = m.field? ∧
      List.Forall₂ Matches n.children m.children := by
  constructor
  · rintro ⟨hname, -, hspan, hfield, hchildren⟩
    exact ⟨hname, hspan, hfield, hchildren⟩
  · rintro ⟨hname, hspan, hfield, hchildren⟩
    exact .node hname (Kind.name_eq_name_iff.1 hname) hspan hfield hchildren

/-! ## Values of matching trees -/

/-- The entries that a node may lack tell whether it has them. -/
theorem optionalEntries_inj {f g : Option String} {ns ms : List Node} :
    (f.map fun field => ("field", Json.string field)).toList ++
          (if ns.isEmpty then [] else [("children", .array (toJsonAll ns))]) =
        (g.map fun field => ("field", Json.string field)).toList ++
          (if ms.isEmpty then [] else [("children", .array (toJsonAll ms))]) ↔
      f = g ∧ toJsonAll ns = toJsonAll ms := by
  cases f <;> cases g <;> cases ns <;> cases ms <;> simp [toJsonAll]

theorem toJson_eq_iff {n m : Node} :
    n.toJson = m.toJson ↔ n.kind.name = m.kind.name ∧ n.span = m.span ∧ n.field? = m.field? ∧
      toJsonAll n.children = toJsonAll m.children := by
  obtain ⟨kind, ⟨start, stop⟩, field?, named, children⟩ := n
  obtain ⟨kind', ⟨start', stop'⟩, field?', named', children'⟩ := m
  simp only [toJson, Json.object.injEq, List.cons.injEq, Prod.mk.injEq, Json.string.injEq,
    Json.array.injEq, Json.integer.injEq, Int.natCast_inj, optionalEntries_inj, Span.mk.injEq,
    true_and, and_true]

mutual

/-- **Trees have the same value exactly if they match.** -/
theorem toJson_eq_toJson_iff (n m : Node) : n.toJson = m.toJson ↔ Matches n m := by
  rw [toJson_eq_iff, matches_iff]
  obtain ⟨kind, span, field?, named, children⟩ := n
  rw [toJsonAll_eq_toJsonAll_iff children m.children]

theorem toJsonAll_eq_toJsonAll_iff (ns ms : List Node) :
    toJsonAll ns = toJsonAll ms ↔ List.Forall₂ Matches ns ms := by
  match ns, ms with
  | [], [] => exact iff_of_true rfl .nil
  | [], m :: ms => exact iff_of_false (by simp [toJsonAll]) nofun
  | n :: ns, [] => exact iff_of_false (by simp [toJsonAll]) nofun
  | n :: ns, m :: ms =>
    rw [toJsonAll, toJsonAll, List.cons.injEq, List.forall₂_cons, toJson_eq_toJson_iff n m,
      toJsonAll_eq_toJsonAll_iff ns ms]

end

/-! ## Texts of matching trees -/

/-- All offsets of the tree are words. -/
def HasWordSpans (n : Node) : Prop :=
  ∀ k ∈ n.nodes, k.span.start < Span.offsetLimit ∧ k.span.stop < Span.offsetLimit

instance (n : Node) : Decidable n.HasWordSpans := inferInstanceAs (Decidable (∀ k ∈ n.nodes, _))

/-- An offset is written as a whole number that fits a word. -/
theorem holdsWords_offset {offset : Nat} (h : offset < Span.offsetLimit) :
    HoldsWords (.integer offset) := by
  have hlimits : Span.offsetLimit < wordLimit := by decide
  exact .integer (by omega) (by omega)

mutual

theorem holdsWords_toJson (n : Node) (h : n.HasWordSpans) : HoldsWords n.toJson := by
  obtain ⟨kind, span, field?, named, children⟩ := n
  obtain ⟨hstart, hstop⟩ := h _ (mem_nodes_self _)
  have hchildren := holdsWords_toJsonAll children fun c hc k hk =>
    h k (mem_nodes_iff.2 (.inr (mem_descendants_iff.2 ⟨c, hc, hk⟩)))
  rw [toJson]
  refine .object fun e he => ?_
  simp only [List.mem_cons, List.mem_append] at he
  rcases he with rfl | rfl | he | he
  · exact .string _
  · refine .array fun v hv => ?_
    simp only [List.mem_cons, List.not_mem_nil, or_false] at hv
    rcases hv with rfl | rfl
    · exact holdsWords_offset hstart
    · exact holdsWords_offset hstop
  · obtain ⟨field, -, rfl⟩ := Option.map_eq_some_iff.1 (Option.mem_toList.1 he)
    exact .string field
  · split at he
    · exact absurd he List.not_mem_nil
    · rw [List.mem_singleton.1 he]
      exact .array hchildren

theorem holdsWords_toJsonAll (ns : List Node) (h : ∀ n ∈ ns, n.HasWordSpans) :
    ∀ v ∈ toJsonAll ns, HoldsWords v := by
  match ns with
  | [] => exact fun v hv => absurd hv List.not_mem_nil
  | n :: ns =>
    intro v hv
    rcases List.mem_cons.1 hv with rfl | hv
    · exact holdsWords_toJson n (h n (List.mem_cons_self ..))
    · exact holdsWords_toJsonAll ns (fun m hm => h m (List.mem_cons_of_mem n hm)) v hv

end

/-- **The JSON of a tree tells everything but which nodes are named and which kinds are closed.**
Both texts of a tree denote its value, and without the white space outside of strings the pretty
text is the compact one; the value, and each of the texts, is shared exactly by the trees that
match. -/
theorem toJson_tells {n m : Node} (hn : n.HasWordSpans) (hm : m.HasWordSpans) :
    (parse? n.toJson.compact = some n.toJson ∧ parse? n.toJson.pretty = some n.toJson) ∧
    withoutBlanks .outside n.toJson.pretty = n.toJson.compact ∧
    (n.toJson = m.toJson ↔ Matches n m) ∧
    (n.toJson.compact = m.toJson.compact ↔ Matches n m) ∧
    (n.toJson.pretty = m.toJson.pretty ↔ Matches n m) := by
  have hvn := holdsWords_toJson n hn
  have hvm := holdsWords_toJson m hm
  have hvalue := toJson_eq_toJson_iff n m
  exact ⟨⟨parse?_compact hvn, parse?_pretty hvn⟩, withoutBlanks_print isBlank_pretty hvn 0, hvalue,
    (print_inj isBlank_none hvn hvm 0).trans hvalue,
    (print_inj isBlank_pretty hvn hvm 0).trans hvalue⟩

/-- A tree with marks of JSON in the names of kinds and fields, with an empty field name, and with a
kind of the grammar's own named like a closed one. -/
def grammarNames : Node :=
  ⟨.other "a \"b\" \\\n\x01", ⟨0, 9⟩, some "", true,
    [⟨.other "Token", ⟨3, 2⟩, some "]\x7d", false, []⟩, plain (.role .block) ⟨4, 4⟩ []]⟩

/-- The same tree with the closed kind of that name and other nodes named. -/
def closedNames : Node :=
  ⟨.other "a \"b\" \\\n\x01", ⟨0, 9⟩, some "", false,
    [⟨.role .token, ⟨3, 2⟩, some "]\x7d", true, []⟩, plain (.role .block) ⟨4, 4⟩ []]⟩

/-- The same tree with another closed kind. -/
def parameterNames : Node :=
  ⟨.other "a \"b\" \\\n\x01", ⟨0, 9⟩, some "", false,
    [⟨.role .token, ⟨3, 2⟩, some "]\x7d", true, []⟩, plain (.role .parameter) ⟨4, 4⟩ []]⟩

/-- The first tree, held by no field at all. -/
def unheldNames : Node := { grammarNames with field? := none }

/-- The first two trees are written alike, the third has another pretty text, and the fourth has
another compact text. -/
theorem toJson_tells_grammarNames :
    grammarNames.HasWordSpans ∧ closedNames.HasWordSpans ∧ parameterNames.HasWordSpans ∧
    unheldNames.HasWordSpans ∧
    grammarNames.toJson.compact =
      ["\x7b\"type\":\"a \\\"b\\\" \\\\\\n\\u0001\",", "\"range\":[0,9],\"field\":\"\",",
        "\"children\":[\x7b\"type\":\"Token\",", "\"range\":[3,2],\"field\":\"]\x7d\"\x7d,",
        "\x7b\"type\":\"Block\",", "\"range\":[4,4]\x7d]\x7d"].flatMap String.toList ∧
    parse? grammarNames.toJson.pretty = some grammarNames.toJson ∧
    grammarNames.toJson.pretty = closedNames.toJson.pretty ∧
    closedNames.toJson.pretty ≠ parameterNames.toJson.pretty ∧
    grammarNames.toJson.compact ≠ unheldNames.toJson.compact := by
  have hgrammar : grammarNames.HasWordSpans := by decide
  have hclosed : closedNames.HasWordSpans := by decide
  have hparameter : parameterNames.HasWordSpans := by decide
  have hunheld : unheldNames.HasWordSpans := by decide
  have hmatch : Matches grammarNames closedNames :=
    .node rfl (.inl rfl) rfl rfl
      (.cons (.node rfl (.inr (.inl rfl)) rfl rfl .nil)
        (.cons (.node rfl (.inl rfl) rfl rfl .nil) .nil))
  have hkinds : ¬SameButOwn (.role .block) (.role .parameter) := by
    rintro (h | h | h) <;> cases h
  have hother : ¬Matches closedNames parameterNames := by
    rintro ⟨-, -, -, -, hchildren⟩
    obtain ⟨-, hrest⟩ := List.forall₂_cons.1 hchildren
    obtain ⟨⟨-, hkind, -⟩, -⟩ := List.forall₂_cons.1 hrest
    exact hkinds hkind
  have hfield : ¬Matches grammarNames unheldNames := by
    rintro ⟨-, -, -, hfield, -⟩
    exact absurd hfield (by decide)
  obtain ⟨⟨-, hpretty⟩, -, -, -, hsame⟩ := toJson_tells hgrammar hclosed
  obtain ⟨-, -, -, -, hkind⟩ := toJson_tells hclosed hparameter
  obtain ⟨-, -, -, hheld, -⟩ := toJson_tells hgrammar hunheld
  exact ⟨hgrammar, hclosed, hparameter, hunheld, by decide +kernel, hpretty, hsame.2 hmatch,
    fun h => hother (hkind.1 h), fun h => hfield (hheld.1 h)⟩

end TreeScribe.Node
