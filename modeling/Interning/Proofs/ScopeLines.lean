import Interning.Proofs.LineFraming

/-!
# Lines of scopes

In text format the command that tells scopes writes a line for each name, with the scope, a tab and
the name. It writes the name as it stands, not its literal. Therefore the output has the line feeds
of the names besides its own, and its lines are those of the names exactly if the names hold none
(`framesScopes_iff`). Names without line feeds can be read back (`eq_of_renderScopes_eq`).

A line feed in a name begins a line that may be that of another name. A name behind a dollar sign
is a global variable whatever stands behind the sign, so every list in which another name follows a
global variable has the output of a shorter list (`renderScopes_joined`).
-/

set_option autoImplicit false
set_option relaxedAutoImplicit false

namespace Interning

/-- What the line of a name says: its scope, a tab, and the name as it stands. -/
def scopeEntry (name : Text) : Text :=
  (classify name).name.toList ++ '\t' :: name

/-- Each name has a line in its place that begins with its scope and a tab, and a line feed stands
behind every line. -/
def FramesScopes (names : List Text) (output : Text) : Prop :=
  ∃ lines, output.splitOn '\n' = lines ++ [[]] ∧
    List.Forall₂ (fun name line ↦ (classify name).name.toList ++ ['\t'] <+: line) names lines

variable {name second : Text} {names other before after : List Text} {output : Text}

/-! ### Lines and line feeds -/

theorem intercalate_scope (name : Text) :
    ['\t'].intercalate [(classify name).name.toList, name] = scopeEntry name := by
  rw [List.intercalate_cons_cons, List.intercalate_singleton, List.append_assoc]
  rfl

theorem renderScopes_eq (names : List Text) :
    renderScopes .text names = names.flatMap fun name ↦ scopeEntry name ++ ['\n'] := by
  simp only [renderScopes, line, intercalate_scope]

theorem length_splitOn (separator : Char) (text : Text) :
    (text.splitOn separator).length = text.count separator + 1 := by
  rw [List.splitOn_eq_splitOnP]
  induction text with
  | nil => rfl
  | cons c text ih =>
    rw [List.splitOnP_cons_eq_if_modifyHead, List.count_cons]
    split <;> simp_all

theorem count_scopeEntry (name : Text) : (scopeEntry name).count '\n' = name.count '\n' := by
  have hscope : '\n' ∉ (classify name).name.toList := (isField_scopeName _).2
  simp [scopeEntry, List.count_eq_zero.mpr hscope]

/-- The output has a line feed for each name, and those of the names. -/
theorem count_renderScopes (names : List Text) :
    (renderScopes .text names).count '\n' =
      names.length + (names.map (List.count '\n')).sum := by
  rw [renderScopes_eq]
  induction names with
  | nil => rfl
  | cons name names ih =>
    rw [List.flatMap_cons, List.count_append, List.count_append, count_scopeEntry, ih]
    simp
    omega

theorem sum_count_eq_zero_iff :
    (names.map (List.count '\n')).sum = 0 ↔ ∀ name ∈ names, '\n' ∉ name := by
  simp [List.sum_eq_zero_iff_forall_eq_nat, List.count_eq_zero]

/-- Names without line feeds have one line each. -/
theorem splitOn_renderScopes (h : ∀ name ∈ names, '\n' ∉ name) :
    (renderScopes .text names).splitOn '\n' = names.map scopeEntry ++ [[]] := by
  have hfields : ∀ name ∈ names, ∀ field ∈ [(classify name).name.toList, name],
      '\n' ∉ field := by
    intro name hname
    simp only [List.forall_mem_cons]
    exact ⟨(isField_scopeName _).2, h name hname, by simp⟩
  have hcut := splitOn_flatMap_line names hfields []
  simp only [intercalate_scope, List.append_nil] at hcut
  exact hcut

/-- The lines of an output are those of its names exactly if no name holds a line feed. -/
theorem framesScopes_iff :
    FramesScopes names (renderScopes .text names) ↔ ∀ name ∈ names, '\n' ∉ name := by
  constructor
  · rintro ⟨lines, hlines, hnames⟩
    have hlength := congrArg List.length hlines
    rw [length_splitOn, count_renderScopes, List.length_append, ← hnames.length_eq] at hlength
    rw [← sum_count_eq_zero_iff]
    simpa using hlength
  · intro h
    refine ⟨_, splitOn_renderScopes h, ?_⟩
    rw [List.forall₂_map_right_iff, List.forall₂_same]
    intro name _
    exact ⟨name, List.append_assoc _ _ _⟩

/-! ### Reading names back -/

/-- A line determines its name: scopes have no tabs. -/
theorem scopeEntry_injective : Function.Injective scopeEntry := by
  have hname (name : Text) : (scopeEntry name).dropWhile (· != '\t') = '\t' :: name := by
    have hscope : ∀ c ∈ (classify name).name.toList, (c != '\t') = true := by
      intro c hc
      rw [bne_iff_ne]
      rintro rfl
      exact (isField_scopeName _).1 hc
    rw [scopeEntry, List.dropWhile_append_of_pos hscope]
    rfl
  intro first second heq
  have hdrop := congrArg (List.dropWhile (· != '\t')) heq
  rw [hname, hname] at hdrop
  exact List.tail_eq_of_cons_eq hdrop

/-- Of all lists with one output, that of names without line feeds is the longest. -/
theorem eq_of_renderScopes_eq (h : ∀ name ∈ names, '\n' ∉ name)
    (hlength : names.length ≤ other.length)
    (heq : renderScopes .text names = renderScopes .text other) : names = other := by
  have hcount := congrArg (List.count '\n') heq
  rw [count_renderScopes, count_renderScopes, sum_count_eq_zero_iff.mpr h] at hcount
  have hother : ∀ name ∈ other, '\n' ∉ name := sum_count_eq_zero_iff.mp (by omega)
  have hlines := splitOn_renderScopes hother
  rw [← heq, splitOn_renderScopes h] at hlines
  exact scopeEntry_injective.list_map (List.append_cancel_right hlines)

theorem scopeEntry_append {rest : Text} (h : classify (name ++ rest) = classify name) :
    scopeEntry (name ++ rest) = scopeEntry name ++ rest := by
  rw [scopeEntry, h, scopeEntry, List.append_assoc]
  rfl

/-- A global variable takes in the line of the name that follows it. -/
theorem renderScopes_joined (before after : List Text) (name second : Text) :
    renderScopes .text (before ++ ('$' :: name) :: second :: after) =
      renderScopes .text (before ++ ('$' :: name ++ '\n' :: scopeEntry second) :: after) := by
  have hscope (rest : Text) : classify ('$' :: name ++ rest) = classify ('$' :: name) := rfl
  simp only [renderScopes_eq, List.flatMap_append, List.flatMap_cons,
    scopeEntry_append (hscope _), List.append_assoc]
  rfl

/-! ### The command -/

/-- In text format the command that tells scopes frames names exactly if none holds a line feed.
Of all lists with one output, that of names without line feeds is the longest, so no two such lists
have the same output. -/
theorem scopes_output {m : Type → Type} [Monad m] (host : Host m) {around : Surroundings}
    {settings : Settings} {format : Option OutputFormat}
    (hformat : format.getD settings.format = .text) :
    ∃ output : List Text → Text,
      (∀ names, (Command.classify names format).run host around settings =
        pure (.ok (output names))) ∧
      (∀ names, FramesScopes names (output names) ↔ ∀ name ∈ names, '\n' ∉ name) ∧
      (∀ names, (output names).count '\n' =
        names.length + (names.map (List.count '\n')).sum) ∧
      (∀ names other, (∀ name ∈ names, '\n' ∉ name) → output names = output other →
        names = other ∨ other.length < names.length) ∧
      ∀ before after name second, output (before ++ ('$' :: name) :: second :: after) =
        output (before ++ ('$' :: name ++ '\n' :: scopeEntry second) :: after) := by
  refine ⟨renderScopes .text, ?_, fun _ ↦ framesScopes_iff, count_renderScopes, ?_,
    renderScopes_joined⟩
  · intro names
    rw [Command.run, hformat]
  · intro names other h heq
    rcases Nat.lt_or_ge other.length names.length with hlt | hge
    · exact .inr hlt
    · exact .inl (eq_of_renderScopes_eq h hge heq)

/-- A name with a tab and the empty name have their lines, and no other list of two names or more
has the same output. -/
theorem default_scopes_output : ∃ output,
    (Command.classify ["a\tb".toList, []] none).run (FileTree.host none)
        ⟨⟨8⟩, [], none, none⟩ (.default ⟨8⟩) = pure (.ok output) ∧
      FramesScopes ["a\tb".toList, []] output ∧
      ∀ other, (Command.classify other none).run (FileTree.host none) ⟨⟨8⟩, [], none, none⟩
          (.default ⟨8⟩) = pure (.ok output) →
        ["a\tb".toList, []] = other ∨ other.length < 2 := by
  obtain ⟨output, hrun, hframes, -, hunique, -⟩ :=
    @scopes_output _ _ (FileTree.host none) ⟨⟨8⟩, [], none, none⟩ (.default ⟨8⟩) none rfl
  have hfree : ∀ name ∈ ["a\tb".toList, []], '\n' ∉ name := by
    decide
  refine ⟨_, hrun _, (hframes _).mpr hfree, fun other hother ↦ hunique _ _ hfree ?_⟩
  rw [hrun] at hother
  have houtput := congrArg (fun outcome ↦ (outcome ⟨[], []⟩).1) hother
  exact (Except.ok.inj houtput).symm

/-- A name that goes on with the line of another one has the output of two names. -/
theorem classify_lines_ambiguous : ∃ output,
    (Command.classify ["$a\nlocal\tb".toList] none).run (FileTree.host none)
        ⟨⟨8⟩, [], none, none⟩ (.default ⟨8⟩) = pure (.ok output) ∧
      (Command.classify ["$a".toList, ['b']] none).run (FileTree.host none)
          ⟨⟨8⟩, [], none, none⟩ (.default ⟨8⟩) = pure (.ok output) ∧
        output = "global\t$a\nlocal\tb\n".toList ∧
          ¬ FramesScopes ["$a\nlocal\tb".toList] output := by
  have hone : renderScopes .text ["$a\nlocal\tb".toList] = "global\t$a\nlocal\tb\n".toList := by
    decide +kernel
  have htwo : renderScopes .text ["$a".toList, ['b']] = "global\t$a\nlocal\tb\n".toList := by
    decide +kernel
  refine ⟨"global\t$a\nlocal\tb\n".toList, ?_, ?_, rfl, ?_⟩
  · rw [← hone]
    rfl
  · rw [← htwo]
    rfl
  · rintro ⟨lines, hlines, hnames⟩
    have hlength := congrArg List.length hlines
    rw [length_splitOn, List.length_append, ← hnames.length_eq] at hlength
    exact absurd hlength (by decide)

end Interning
