import RapidLang.Proofs.Layout.Statement

/-!
# Programs read back

The printed lines of a program form a loose program that is laid out alike.
-/

set_option autoImplicit false

namespace RapidLang

open Text Grammar RapidLang.Parser

/-! ## Heads of loops -/

/-- Do the heads of all loops in a declaration end before the bodies of the loops? -/
def Decl.headsEnd : Decl → Bool
  | .data _ _ | .record _ _ _ => true
  | .proc _ _ body _ | .func _ _ _ body _ | .trap _ body _ => Stmt.headsEndAll body

/-- Do the heads of all loops in a module end? -/
def Module.headsEnd (content : Module) : Bool :=
  content.declarations.all Decl.headsEnd

/-- Do the heads of all loops in a program end? -/
def Program.headsEnd (program : Program) : Bool :=
  program.modules.all Module.headsEnd

variable {sure exact : Prop}

/-! ## Lists -/

theorem Grammar.Many.cons {α : Type} {phrase : List Lexeme → α → Prop} {lexemes rest : List Lexeme}
    {value : α} {values : List α} (holds : phrase lexemes value) (many : Many phrase rest values) :
    Many phrase (lexemes ++ rest) (value :: values) := by
  induction many with
  | nil => simpa using Many.snoc .nil holds
  | snoc _ last ih =>
      rw [← List.append_assoc]
      exact .snoc ih last

/-- What holds of every phrase within the lexemes holds of all values. -/
theorem Grammar.Many.forall {α : Type} {phrase : List Lexeme → α → Prop} {property : α → Prop}
    {lexemes : List Lexeme} {values : List α} (many : Many phrase lexemes values)
    (holds : ∀ part value, (∀ lexeme ∈ part, lexeme ∈ lexemes) → phrase part value →
      property value) : ∀ value ∈ values, property value := by
  induction many with
  | nil => exact fun _ member => absurd member List.not_mem_nil
  | snoc _ last ih =>
      intro value member
      rcases List.mem_append.mp member with before | here
      · refine ih (fun part value within => holds part value fun lexeme member => ?_) value before
        exact List.mem_append_left _ (within lexeme member)
      · obtain rfl := List.mem_singleton.mp here
        exact holds _ _ (fun lexeme member => List.mem_append_right _ member) last

/-- What holds of every phrase within the lexemes holds of all values. -/
theorem Grammar.Separated.forall {α : Type} {phrase : List Lexeme → α → Prop} {property : α → Prop}
    {lexemes : List Lexeme} {values : List α} (list : Separated phrase lexemes values)
    (holds : ∀ part value, (∀ lexeme ∈ part, lexeme ∈ lexemes) → phrase part value →
      property value) : ∀ value ∈ values, property value := by
  induction list with
  | one only =>
      intro value member
      obtain rfl := List.mem_singleton.mp member
      exact holds _ _ (fun _ member => member) only
  | more _ _ last ih =>
      intro value member
      rcases List.mem_append.mp member with before | here
      · refine ih (fun part value within => holds part value fun lexeme member => ?_) value before
        exact List.mem_append_left _ (within lexeme member)
      · obtain rfl := List.mem_singleton.mp here
        refine holds _ _ (fun lexeme member => ?_) last
        exact List.mem_append_right _ (List.mem_cons_of_mem _ member)

/-- Trees laid out one behind the other. -/
theorem ReadsBack.flatMap {α : Type} {layout : α → List LayoutStep}
    {phrase : List Lexeme → α → Prop} {trees : List α}
    (each : ∀ tree ∈ trees, ∃ read, ReadsBack exact layout phrase tree read) :
    ∃ reads, ReadsBack exact (List.flatMap layout) (Many phrase) trees reads := by
  induction trees with
  | nil => exact ⟨[], rfl, fun _ => rfl, [], .nil, .nil⟩
  | cons first rest ih =>
      obtain ⟨read, here⟩ := each first List.mem_cons_self
      obtain ⟨reads, behind⟩ := ih fun tree member => each tree (List.mem_cons_of_mem _ member)
      exact ⟨read :: reads, here.append behind List.cons List.flatMap_cons List.flatMap_cons
        fun _ _ => .cons⟩

/-! ## Parameters -/

/-- The lexeme of the word that stands before a parameter, where there is one. -/
def ParameterMode.lexemes : ParameterMode → List Lexeme
  | .input => []
  | .inOut => [⟨.identifier, "INOUT"⟩]
  | .var => [⟨.var, "VAR"⟩]
  | .pers => [⟨.pers, "PERS"⟩]

theorem Grammar.ParameterPhrase.spelled {lexemes : List Lexeme} {parameter : Parameter}
    (phrase : ParameterPhrase lexemes parameter) (fit : ∀ lexeme ∈ lexemes, Fit exact lexeme) :
    ∃ lexemes, Lexes parameter.heading.toList lexemes ∧ parameter.heading.toList ≠ [] ∧
      ParameterPhrase lexemes parameter := by
  have heading : ∀ {mode : ParameterMode} {word : String} {type name : Lexeme},
      mode.word?.elim "" (· ++ " ") = word → Written type → type.kind = .identifier →
      Written name → name.kind = .identifier →
      Lexes (word ++ type.text ++ " " ++ name.text).toList (mode.lexemes ++ [type, name]) ∧
        (word ++ type.text ++ " " ++ name.text).toList ≠ [] := by
    rintro mode _ type name rfl written typed written' named
    have opening : Leads (mode.word?.elim "" (· ++ " ")) mode.lexemes := by
      cases mode <;> decide
    have whole := (Lexes.behind opening (written.lexes typed)).separate
      (show Separates " " [] by decide) (written'.lexes named)
    refine ⟨by simpa using whole, ?_⟩
    simp
  cases phrase with
  | input typed apart named =>
      obtain ⟨lexes, filled⟩ := @heading .input _ _ _ rfl (fit _ (by simp)).1 typed
        (fit _ (by simp)).1 named
      exact ⟨_, lexes, filled, .input typed apart named⟩
  | inOut _ typed named =>
      obtain ⟨lexes, filled⟩ := @heading .inOut _ _ _ rfl (fit _ (by simp)).1 typed
        (fit _ (by simp)).1 named
      exact ⟨_, lexes, filled, .inOut (by decide) typed named⟩
  | var _ typed named =>
      obtain ⟨lexes, filled⟩ := @heading .var _ _ _ rfl (fit _ (by simp)).1 typed
        (fit _ (by simp)).1 named
      exact ⟨_, lexes, filled, .var rfl typed named⟩
  | pers _ typed named =>
      obtain ⟨lexes, filled⟩ := @heading .pers _ _ _ rfl (fit _ (by simp)).1 typed
        (fit _ (by simp)).1 named
      exact ⟨_, lexes, filled, .pers rfl typed named⟩

theorem Grammar.Separated.spelled {lexemes : List Lexeme} {parameters : List Parameter}
    (list : Separated ParameterPhrase lexemes parameters)
    (fit : ∀ lexeme ∈ lexemes, Fit exact lexeme) :
    ∃ lexemes, ListLexes (parameters.map Parameter.heading) lexemes ∧
      Separated ParameterPhrase lexemes parameters := by
  induction list with
  | one phrase =>
      obtain ⟨lexemes, lexes, filled, phrase⟩ := phrase.spelled fit
      exact ⟨lexemes, .one lexes filled, .one phrase⟩
  | more _ _ phrase ih =>
      obtain ⟨earlier, list, separated⟩ := ih (all_of_subset fit (by simp +contextual))
      obtain ⟨rest, lexes, filled, phrase⟩ :=
        phrase.spelled (all_of_subset fit (by simp +contextual))
      rw [List.map_append]
      exact ⟨_, list.snoc lexes filled, .more separated rfl phrase⟩

/-- The parameters of a routine are always printed with parentheses. -/
theorem Grammar.Parameters.spelled {lexemes : List Lexeme} {parameters : List Parameter}
    (phrase : Parameters lexemes parameters) (fit : ∀ lexeme ∈ lexemes, Fit exact lexeme) :
    ∃ lexemes, Lexes (Parameter.headings parameters).toList lexemes ∧
      startsFresh (Parameter.headings parameters).toList ∧ Parameters lexemes parameters ∧
      lexemes ≠ [] := by
  have empty : Parameters [⟨.leftParen, "("⟩, ⟨.rightParen, ")"⟩] [] := .none rfl rfl
  cases phrase with
  | missing => exact ⟨_, by decide, by decide, empty, List.cons_ne_nil _ _⟩
  | none => exact ⟨_, by decide, by decide, empty, List.cons_ne_nil _ _⟩
  | some _ list _ =>
      obtain ⟨lexemes, list, separated⟩ := list.spelled (all_of_subset fit (by simp +contextual))
      refine ⟨_, (Spells.parenthesized list.joined).lexes, ?_, .some rfl separated rfl,
        List.cons_ne_nil _ _⟩
      rw [Parameter.headings, String.append_assoc, String.toList_append]
      rfl

/-! ## Records -/

theorem Grammar.ComponentPhrase.readsBack {lexemes : List Lexeme} {component : Component}
    (phrase : ComponentPhrase lexemes component) (fit : ∀ lexeme ∈ lexemes, Fit exact lexeme) :
    ∃ read, ReadsBack exact Component.layout ComponentLine component read := by
  cases phrase with
  | mk typed named =>
      have lays := (((fit _ (by simp)).1.lexes typed).separate (show Separates " " [] by decide)
        ((fit _ (by simp)).1.lexes named)).closed
      exact ⟨_, rfl, fun _ => rfl, _, lays, .mk (.mk typed named) rfl⟩

theorem Grammar.ComponentLine.readsBack {lexemes : List Lexeme} {component : Component}
    (line : ComponentLine lexemes component) (fit : ∀ lexeme ∈ lexemes, Fit exact lexeme) :
    ∃ read, ReadsBack exact Component.layout ComponentLine component read := by
  cases line with
  | mk phrase _ => exact phrase.readsBack (all_of_subset fit fun _ => List.mem_append_left _)

theorem Grammar.ComponentList.readBack {lexemes : List Lexeme} {components : List Component}
    (list : ComponentList lexemes components) (fit : ∀ lexeme ∈ lexemes, Fit exact lexeme) :
    ∀ component ∈ components,
      ∃ read, ReadsBack exact Component.layout ComponentLine component read := by
  cases list with
  | none => exact fun _ member => absurd member List.not_mem_nil
  | some list =>
      exact list.forall fun part _ within phrase => phrase.readsBack (all_of_subset fit within)
  | trailing list _ =>
      exact list.forall fun part _ within phrase => phrase.readsBack <|
        all_of_subset fit fun lexeme member => List.mem_append_left _ (within lexeme member)

/-! ## Declarations -/

namespace Decl

/-- What the printed lines of a declaration are read back as. -/
def Printed (sure exact : Prop) (tree read : Decl) : Prop :=
  ReadsBack exact layout
    (fun lexemes read => LooseDeclaration sure lexemes read ∧ read.isData = tree.isData) tree read

theorem printed_data {item read : DataItem}
    (back : ReadsBack exact DataItem.layout DataDeclaration item read) :
    Printed sure exact (.data item .origin) (.data read .origin) := by
  obtain ⟨lexemes, lays, declaration⟩ := back.lines
  exact ⟨back.alike, fun holds => by rw [back.same holds], lexemes, lays,
    .bodiless (.data declaration) rfl, rfl⟩

theorem printed_record {name : Lexeme} {components reads : List Component} (written : Written name)
    (named : name.kind = .identifier)
    (back : ReadsBack exact (List.flatMap Component.layout) (Many ComponentLine) components reads) :
    Printed sure exact (.record ⟨name.text, .origin⟩ components .origin)
      (.record ⟨name.text, .origin⟩ reads .origin) := by
  obtain ⟨lexemes, lays, many⟩ := back.lines
  have heading := Lexes.behind (show Leads "RECORD " [⟨.record, "RECORD"⟩] by decide)
    (written.lexes named)
  have lines := lays.bracketed heading
    (show Lexes "ENDRECORD".toList [⟨.endRecord, "ENDRECORD"⟩] by decide)
  refine ⟨?_, fun holds => by rw [back.same holds], _, lines,
    .bodiless (.recordBlock rfl named many rfl) rfl, rfl⟩
  simp only [layout, Decl.heading, back.alike]

/-- The lines of a routine; what stands behind the name is read back. -/
theorem routine_lines {text closing : String} {opening front : List Lexeme} {close : Lexeme}
    {parameters : List Parameter} {body reads : List Stmt} (lexes : Lexes text.toList opening)
    (phrase : Parameters front parameters) (fit : ∀ lexeme ∈ front, Fit exact lexeme)
    (statements : Stmt.AllPrinted sure exact body reads)
    (lexes' : Lexes closing.toList [close]) :
    ∃ rest, Lays (LayoutStep.line (text ++ Parameter.headings parameters) ++
        LayoutStep.indented (Stmt.layoutAll body) ++ LayoutStep.line closing) (opening ++ rest) ∧
      LooseRest sure close.kind rest parameters reads := by
  obtain ⟨front, headings, fresh, list, some⟩ := phrase.spelled fit
  obtain ⟨lexemes, lays, body, _⟩ := statements.lines
  have lines := lays.bracketed (lexes.put headings (.inr fresh)) lexes'
  refine ⟨front ++ (lexemes ++ [close]), ?_, .mk list body rfl fun none => absurd none some⟩
  simpa [List.append_assoc] using lines

theorem printed_proc {name : Lexeme} {front : List Lexeme} {parameters : List Parameter}
    {body reads : List Stmt} (written : Written name) (named : name.kind = .identifier)
    (phrase : Parameters front parameters) (fit : ∀ lexeme ∈ front, Fit exact lexeme)
    (statements : Stmt.AllPrinted sure exact body reads) :
    Printed sure exact (.proc ⟨name.text, .origin⟩ parameters body .origin)
      (.proc ⟨name.text, .origin⟩ parameters reads .origin) := by
  have heading := Lexes.behind (show Leads "PROC " [⟨.proc, "PROC"⟩] by decide)
    (written.lexes named)
  obtain ⟨rest, lays, routine⟩ := routine_lines heading phrase fit statements
    (show Lexes "ENDPROC".toList [⟨.endProc, "ENDPROC"⟩] by decide)
  refine ⟨?_, fun holds => by rw [statements.same holds], _, lays, .proc rfl named routine, rfl⟩
  simp only [layout, Decl.heading, statements.alike]

theorem printed_func {type name : Lexeme} {front : List Lexeme} {parameters : List Parameter}
    {body reads : List Stmt} (written : Written type) (typed : type.kind = .identifier)
    (written' : Written name) (named : name.kind = .identifier)
    (phrase : Parameters front parameters) (fit : ∀ lexeme ∈ front, Fit exact lexeme)
    (statements : Stmt.AllPrinted sure exact body reads) :
    Printed sure exact (.func ⟨type.text, .origin⟩ ⟨name.text, .origin⟩ parameters body .origin)
      (.func ⟨type.text, .origin⟩ ⟨name.text, .origin⟩ parameters reads .origin) := by
  have heading := (Lexes.behind (show Leads "FUNC " [⟨.func, "FUNC"⟩] by decide)
    (written.lexes typed)).separate (show Separates " " [] by decide) (written'.lexes named)
  obtain ⟨rest, lays, routine⟩ := routine_lines heading phrase fit statements
    (show Lexes "ENDFUNC".toList [⟨.endFunc, "ENDFUNC"⟩] by decide)
  refine ⟨?_, fun holds => by rw [statements.same holds], _, lays,
    .func rfl typed named routine, rfl⟩
  simp only [layout, Decl.heading, statements.alike]

theorem printed_trap {name : Lexeme} {body reads : List Stmt} (written : Written name)
    (named : name.kind = .identifier) (statements : Stmt.AllPrinted sure exact body reads) :
    Printed sure exact (.trap ⟨name.text, .origin⟩ body .origin)
      (.trap ⟨name.text, .origin⟩ reads .origin) := by
  obtain ⟨lexemes, lays, phrase, _⟩ := statements.lines
  have heading := Lexes.behind (show Leads "TRAP " [⟨.trap, "TRAP"⟩] by decide)
    (written.lexes named)
  have lines := lays.bracketed heading
    (show Lexes "ENDTRAP".toList [⟨.endTrap, "ENDTRAP"⟩] by decide)
  refine ⟨?_, fun holds => by rw [statements.same holds], _, lines, .trap rfl named phrase rfl, rfl⟩
  simp only [layout, Decl.heading, statements.alike]

/-- What stands between two declarations depends only on whether they are data. -/
theorem layoutAfter_congr {previous previous' : Decl} (same : previous'.isData = previous.isData)
    (declarations : List Decl) :
    layoutAfter previous' declarations = layoutAfter previous declarations := by
  cases declarations with
  | nil => rfl
  | cons next rest => rw [layoutAfter, layoutAfter, gap, gap, same]

theorem lays_gap (previous next : Decl) : Lays (gap previous next) [] := by
  unfold gap
  split
  · exact .nil
  · exact .itemGap

/-- What the printed lines of several declarations are read back as. -/
theorem layoutAfter_readsBack {declarations : List Decl} (previous : Decl)
    (each : ∀ tree ∈ declarations, ∃ read, Printed sure exact tree read) :
    ∃ reads, ReadsBack exact (layoutAfter previous) (Many (LooseDeclaration sure)) declarations
      reads := by
  induction declarations generalizing previous with
  | nil => exact ⟨[], rfl, fun _ => rfl, [], .nil, .nil⟩
  | cons next rest ih =>
      obtain ⟨read, printed⟩ := each next List.mem_cons_self
      obtain ⟨reads, behind⟩ := ih next fun tree member => each tree (List.mem_cons_of_mem _ member)
      obtain ⟨lexemes, lays, declaration, data⟩ := printed.lines
      have front : ReadsBack exact (fun tree => gap previous next ++ layout tree)
          (LooseDeclaration sure) next read :=
        ⟨congrArg (gap previous next ++ ·) printed.alike, printed.same, lexemes,
          (lays_gap previous next).append lays, declaration⟩
      refine ⟨read :: reads, front.append behind List.cons rfl ?_ fun _ _ => .cons⟩
      rw [layoutAfter, layoutAfter_congr data, gap, gap, data]

theorem layoutAll_readsBack {declarations : List Decl}
    (each : ∀ tree ∈ declarations, ∃ read, Printed sure exact tree read) :
    ∃ reads, ReadsBack exact layoutAll (Many (LooseDeclaration sure)) declarations reads := by
  cases declarations with
  | nil => exact ⟨[], rfl, fun _ => rfl, [], .nil, .nil⟩
  | cons first rest =>
      obtain ⟨read, printed⟩ := each first List.mem_cons_self
      obtain ⟨reads, behind⟩ :=
        layoutAfter_readsBack first fun tree member => each tree (List.mem_cons_of_mem _ member)
      obtain ⟨_, _, _, data⟩ := printed.lines
      refine ⟨read :: reads, ReadsBack.append printed behind List.cons rfl ?_
        fun _ _ declaration => .cons declaration.1⟩
      rw [layoutAll, layoutAfter_congr data]

end Decl

/-! ## Modules -/

namespace Module

theorem layoutAll_cons (first : Module) (rest : List Module) :
    layoutAll (first :: rest) =
      layout first ++ rest.flatMap fun content => .blankLine :: layout content := by
  induction rest generalizing first with
  | nil => exact (List.append_nil _).symm
  | cons second rest ih => exact congrArg (layout first ++ .blankLine :: ·) (ih second)

/-- What the printed lines of several modules are read back as. -/
theorem layoutAll_readsBack {modules : List Module}
    (each : ∀ tree ∈ modules, ∃ read, ReadsBack exact layout (LooseModule sure) tree read) :
    ∃ reads, ReadsBack exact layoutAll (Many (LooseModule sure)) modules reads := by
  cases modules with
  | nil => exact ⟨[], rfl, fun _ => rfl, [], .nil, .nil⟩
  | cons first rest =>
      obtain ⟨read, here⟩ := each first List.mem_cons_self
      have apart : ∀ tree ∈ rest, ∃ read, ReadsBack exact
          (fun content => .blankLine :: layout content) (LooseModule sure) tree read := by
        intro tree member
        obtain ⟨read, printed⟩ := each tree (List.mem_cons_of_mem _ member)
        obtain ⟨lexemes, lays, phrase⟩ := printed.lines
        exact ⟨read, congrArg (.blankLine :: ·) printed.alike, printed.same, lexemes,
          Lays.blankLine.append lays, phrase⟩
      obtain ⟨reads, behind⟩ := ReadsBack.flatMap apart
      exact ⟨read :: reads, here.append behind List.cons (layoutAll_cons _ _) (layoutAll_cons _ _)
        fun _ _ => .cons⟩

end Module

/-! ## The declarations of a text -/

theorem Grammar.Declaration.printed {lexemes : List Lexeme} {tree : Decl}
    (declaration : Declaration lexemes tree) (fit : ∀ lexeme ∈ lexemes, Fit exact lexeme)
    (ends : sure → tree.headsEnd) : ∃ read, Decl.Printed sure exact tree read := by
  cases declaration with
  | data data =>
      obtain ⟨read, back⟩ := data.readsBack fit
      exact ⟨_, Decl.printed_data back⟩
  | proc _ named rest =>
      cases rest with
      | mk list body _ _ =>
          obtain ⟨reads, printed⟩ := body.printed (all_of_subset fit (by simp +contextual)) ends
          exact ⟨_, Decl.printed_proc (fit _ (by simp)).1 named list
            (all_of_subset fit (by simp +contextual)) printed⟩
  | func _ typed named rest =>
      cases rest with
      | mk list body _ _ =>
          obtain ⟨reads, printed⟩ := body.printed (all_of_subset fit (by simp +contextual)) ends
          exact ⟨_, Decl.printed_func (fit _ (by simp)).1 typed (fit _ (by simp)).1 named list
            (all_of_subset fit (by simp +contextual)) printed⟩
  | trap _ named body _ =>
      obtain ⟨reads, printed⟩ := body.printed (all_of_subset fit (by simp +contextual)) ends
      exact ⟨_, Decl.printed_trap (fit _ (by simp)).1 named printed⟩
  | recordList _ named _ list _ _ =>
      obtain ⟨reads, back⟩ := ReadsBack.flatMap <|
        list.readBack (all_of_subset fit (by simp +contextual))
      exact ⟨_, Decl.printed_record (fit _ (by simp)).1 named back⟩
  | recordBlock _ named list _ =>
      obtain ⟨reads, back⟩ := ReadsBack.flatMap <| list.forall fun part component within line =>
        line.readsBack (all_of_subset fit fun lexeme member => by simp [within lexeme member])
      exact ⟨_, Decl.printed_record (fit _ (by simp)).1 named back⟩

theorem Grammar.ModulePhrase.readsBack {lexemes : List Lexeme} {tree : Module}
    (phrase : ModulePhrase lexemes tree) (fit : ∀ lexeme ∈ lexemes, Fit exact lexeme)
    (ends : sure → tree.headsEnd) :
    ∃ read, ReadsBack exact Module.layout (LooseModule sure) tree read := by
  cases phrase with
  | @mk opening name close lexemes declarations _ named list _ =>
      have each : ∀ tree ∈ declarations, (sure → tree.headsEnd) → ∃ read,
          Decl.Printed sure exact tree read :=
        list.forall fun part tree within declaration ends =>
          declaration.printed (all_of_subset fit fun lexeme member => by simp [within lexeme member])
            ends
      obtain ⟨reads, back⟩ := Decl.layoutAll_readsBack fun tree member =>
        each tree member fun holds => List.all_eq_true.mp (ends holds) tree member
      obtain ⟨lexemes, lays, many⟩ := back.lines
      have heading := Lexes.behind (show Leads "MODULE " [⟨.module, "MODULE"⟩] by decide)
        ((fit name (by simp)).1.lexes named)
      have lines := lays.bracketed heading
        (show Lexes "ENDMODULE".toList [⟨.endModule, "ENDMODULE"⟩] by decide)
      refine ⟨⟨⟨name.text, .origin⟩, reads, .origin⟩, ?_, fun holds => by rw [back.same holds], _,
        lines, .mk rfl named many rfl⟩
      simp only [Module.layout, back.alike]

/-- The printed lines of a program of a text are read back as a program that is laid out alike. -/
theorem Grammar.ProgramPhrase.readsBack {lexemes : List Lexeme} {tree : Program}
    (phrase : ProgramPhrase lexemes tree) (fit : ∀ lexeme ∈ lexemes, Fit exact lexeme)
    (ends : sure → tree.headsEnd) :
    ∃ read, ReadsBack exact Program.layout (LooseProgram sure) tree read := by
  cases phrase with
  | @mk modules list =>
      have each : ∀ tree ∈ modules, (sure → tree.headsEnd) → ∃ read,
          ReadsBack exact Module.layout (LooseModule sure) tree read :=
        list.forall fun part tree within phrase ends =>
          phrase.readsBack (all_of_subset fit within) ends
      obtain ⟨reads, back⟩ := Module.layoutAll_readsBack fun tree member =>
        each tree member fun holds => List.all_eq_true.mp (ends holds) tree member
      obtain ⟨lexemes, lays, many⟩ := back.lines
      exact ⟨⟨reads, .origin⟩, back.alike, fun holds => by rw [back.same holds], lexemes, lays,
        .mk many⟩

end RapidLang
