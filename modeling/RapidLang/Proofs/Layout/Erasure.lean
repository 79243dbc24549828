import RapidLang.Proofs.Layout.Program

/-!
# Layouts without places

How a program is laid out, and whether the heads of its loops end, does not depend on its spans.
-/

set_option autoImplicit false

namespace RapidLang

/-! ## Expressions -/

namespace Expr

mutual

theorem render_erase : ∀ tree : Expr, tree.erase.render = tree.render
  | .number _ _ | .truth _ _ | .string _ _ | .variable _ => rfl
  | .index base position _ => by
      simp only [Expr.erase, render, render_erase base, render_erase position]
  | .component base name _ => by
      simp only [Expr.erase, render, render_erase base, erase_name]
  | .call routine arguments _ => by
      simp only [Expr.erase, render, renderAll_eraseAll arguments, erase_name]
  | .unary operator operand _ => by
      simp only [Expr.erase, render, render_erase operand, precedence_erase operand]
  | .binary operator left right _ => by
      simp only [Expr.erase, render, render_erase left, render_erase right, precedence_erase left,
        precedence_erase right]

theorem renderAll_eraseAll : ∀ trees : List Expr, renderAll (eraseAll trees) = renderAll trees
  | [] => rfl
  | first :: rest => by
      simp only [eraseAll, renderAll, render_erase first, renderAll_eraseAll rest]

theorem precedence_erase (tree : Expr) : tree.erase.precedence = tree.precedence := by
  cases tree <;> rfl

end

theorem layoutTail_erase (tree : Expr) : tree.erase.layoutTail = tree.layoutTail := by
  cases tree with
  | unary operator operand =>
      simp only [Expr.erase, layoutTail, precedence_erase, layoutTail_erase operand]
  | binary operator left right =>
      simp only [Expr.erase, layoutTail, precedence_erase, layoutTail_erase right]
  | _ => rfl

theorem layoutStatement_erase (tree : Expr) :
    tree.erase.layoutStatement = tree.layoutStatement := by
  have render := render_erase tree
  cases tree with
  | call routine arguments =>
      have bare : standsBare (RapidLang.erase routine) = standsBare routine := rfl
      simp only [Expr.erase] at render
      simp only [Expr.erase, layoutStatement, render, renderAll_eraseAll, bare]
      rfl
  | _ => exact congrArg (fun text => LayoutStep.line (text ++ ";")) render

end Expr

theorem DataItem.layout_erase (item : DataItem) : item.erase.layout = item.layout := by
  obtain ⟨storage, type, name, initial⟩ := item
  cases initial with
  | none => rfl
  | some value =>
      exact congrArg (fun text => LayoutStep.line (_ ++ (" := " ++ text) ++ ";"))
        value.render_erase

/-! ## Statements -/

namespace Stmt

theorem firstChar_erase (tree : Stmt) : tree.erase.firstChar = tree.firstChar := by
  cases tree with
  | assign target => exact congrArg (·.toList.head?) target.render_erase
  | expression value => exact congrArg (·.toList.head?) value.render_erase
  | _ => rfl

theorem firstChar_head_eraseAll (trees : List Stmt) :
    (eraseAll trees).head?.bind firstChar = trees.head?.bind firstChar := by
  cases trees with
  | nil => rfl
  | cons first => exact firstChar_erase first

theorem headEnds_erase (head : Expr) (body : List Stmt) :
    headEnds head.erase (eraseAll body) = headEnds head body := by
  rw [headEnds, headEnds, head.layoutTail_erase, firstChar_head_eraseAll]

end Stmt

mutual

theorem Stmt.layout_erase : ∀ tree : Stmt, tree.erase.layout = tree.layout
  | .block body _ => by
      simp only [Stmt.erase, Stmt.layout, Stmt.layoutAll_eraseAll body]
  | .assign target value _ => by
      simp only [Stmt.erase, Stmt.layout, Expr.render_erase]
  | .expression value _ => by
      simp only [Stmt.erase, Stmt.layout, Expr.layoutStatement_erase]
  | .conditional branches otherwise _ => by
      simp only [Stmt.erase, Stmt.layout, Branch.layoutAll_eraseAll _ branches,
        Stmt.layoutOptional_erase _ otherwise]
  | .while condition body _ => by
      simp only [Stmt.erase, Stmt.layout, Expr.render_erase, Stmt.layoutAll_eraseAll body]
  | .for counter first last body _ => by
      simp only [Stmt.erase, Stmt.layout, Expr.render_erase, Stmt.layoutAll_eraseAll body,
        counterHeading, erase_name]
  | .return none _ => rfl
  | .return (some value) _ => by
      simp only [Stmt.erase, Stmt.layout, erase_some]
      exact congrArg (fun text => LayoutStep.line ("RETURN " ++ text ++ ";")) value.render_erase
  | .move ⟨motion, target, speed, zone, tool, workObject⟩ _ => by
      cases workObject with
      | none => simp only [Stmt.erase, Move.erase, Stmt.layout, Move.operands, Expr.render_erase,
          erase_none]
      | some value =>
          have inner : (erase value).render = value.render := value.render_erase
          simp only [Stmt.erase, Move.erase, Stmt.layout, Move.operands, Expr.render_erase,
            erase_some, inner]
  | .test subject arms default _ => by
      simp only [Stmt.erase, Stmt.layout, Expr.render_erase, Arm.layoutAll_eraseAll arms,
        Stmt.layoutOptional_erase _ default]
  | .connect _ _ _ | .raise _ _ => rfl
  | .data item _ => item.layout_erase

theorem Stmt.layoutAll_eraseAll : ∀ trees : List Stmt,
    Stmt.layoutAll (Stmt.eraseAll trees) = Stmt.layoutAll trees
  | [] => rfl
  | first :: rest => by
      simp only [Stmt.eraseAll, Stmt.layoutAll, Stmt.layout_erase first,
        Stmt.layoutAll_eraseAll rest]

theorem Stmt.layoutOptional_erase (word : String) : ∀ body : Option (List Stmt),
    Stmt.layoutOptional word (Stmt.eraseOptional body) = Stmt.layoutOptional word body
  | none => rfl
  | some body => by
      simp only [Stmt.eraseOptional, Stmt.layoutOptional, Stmt.layoutAll_eraseAll body]

theorem Branch.layout_erase (word : String) : ∀ tree : Branch,
    tree.erase.layout word = tree.layout word
  | .mk condition body _ => by
      simp only [Branch.erase, Branch.layout, Expr.render_erase, Stmt.layoutAll_eraseAll body]

theorem Branch.layoutAll_eraseAll (word : String) : ∀ trees : List Branch,
    Branch.layoutAll word (Branch.eraseAll trees) = Branch.layoutAll word trees
  | [] => rfl
  | first :: rest => by
      simp only [Branch.eraseAll, Branch.layoutAll, Branch.layout_erase word first,
        Branch.layoutAll_eraseAll _ rest]

theorem Arm.layout_erase : ∀ tree : Arm, tree.erase.layout = tree.layout
  | .mk values body _ => by
      simp only [Arm.erase, Arm.layout, Expr.renderAll_eraseAll, Stmt.layoutAll_eraseAll body]

theorem Arm.layoutAll_eraseAll : ∀ trees : List Arm,
    Arm.layoutAll (Arm.eraseAll trees) = Arm.layoutAll trees
  | [] => rfl
  | first :: rest => by
      simp only [Arm.eraseAll, Arm.layoutAll, Arm.layout_erase first, Arm.layoutAll_eraseAll rest]

end

mutual

theorem Stmt.headsEnd_erase : ∀ tree : Stmt, tree.erase.headsEnd = tree.headsEnd
  | .block body _ => by
      simp only [Stmt.erase, Stmt.headsEnd, Stmt.headsEndAll_eraseAll body]
  | .conditional branches otherwise _ => by
      simp only [Stmt.erase, Stmt.headsEnd, Branch.headsEndAll_eraseAll branches,
        Stmt.headsEndOptional_erase otherwise]
  | .while condition body _ => by
      simp only [Stmt.erase, Stmt.headsEnd, Stmt.headEnds_erase, Stmt.headsEndAll_eraseAll body]
  | .for counter first last body _ => by
      simp only [Stmt.erase, Stmt.headsEnd, Stmt.headEnds_erase, Stmt.headsEndAll_eraseAll body]
  | .test subject arms default _ => by
      simp only [Stmt.erase, Stmt.headsEnd, Arm.headsEndAll_eraseAll arms,
        Stmt.headsEndOptional_erase default]
  | .assign _ _ _ | .expression _ _ | .return _ _ | .move _ _ | .connect _ _ _ | .raise _ _
  | .data _ _ => rfl

theorem Stmt.headsEndAll_eraseAll : ∀ trees : List Stmt,
    Stmt.headsEndAll (Stmt.eraseAll trees) = Stmt.headsEndAll trees
  | [] => rfl
  | first :: rest => by
      simp only [Stmt.eraseAll, Stmt.headsEndAll, Stmt.headsEnd_erase first,
        Stmt.headsEndAll_eraseAll rest]

theorem Stmt.headsEndOptional_erase : ∀ body : Option (List Stmt),
    Stmt.headsEndOptional (Stmt.eraseOptional body) = Stmt.headsEndOptional body
  | none => rfl
  | some body => Stmt.headsEndAll_eraseAll body

theorem Branch.headsEnd_erase : ∀ tree : Branch, tree.erase.headsEnd = tree.headsEnd
  | .mk _ body _ => Stmt.headsEndAll_eraseAll body

theorem Branch.headsEndAll_eraseAll : ∀ trees : List Branch,
    Branch.headsEndAll (Branch.eraseAll trees) = Branch.headsEndAll trees
  | [] => rfl
  | first :: rest => by
      simp only [Branch.eraseAll, Branch.headsEndAll, Branch.headsEnd_erase first,
        Branch.headsEndAll_eraseAll rest]

theorem Arm.headsEnd_erase : ∀ tree : Arm, tree.erase.headsEnd = tree.headsEnd
  | .mk _ body _ => Stmt.headsEndAll_eraseAll body

theorem Arm.headsEndAll_eraseAll : ∀ trees : List Arm,
    Arm.headsEndAll (Arm.eraseAll trees) = Arm.headsEndAll trees
  | [] => rfl
  | first :: rest => by
      simp only [Arm.eraseAll, Arm.headsEndAll, Arm.headsEnd_erase first,
        Arm.headsEndAll_eraseAll rest]

end

/-! ## Programs -/

theorem Parameter.headings_erase (parameters : List Parameter) :
    Parameter.headings (erase parameters) = Parameter.headings parameters := by
  have texts : (erase parameters).map Parameter.heading = parameters.map Parameter.heading :=
    List.map_map
  rw [Parameter.headings, texts, Parameter.headings]

namespace Decl

theorem layout_erase (tree : Decl) : tree.erase.layout = tree.layout := by
  cases tree with
  | data item => exact item.layout_erase
  | proc name parameters body =>
      simp only [Decl.erase, layout, heading, Parameter.headings_erase, Stmt.layoutAll_eraseAll,
        erase_name]
  | func type name parameters body =>
      simp only [Decl.erase, layout, heading, Parameter.headings_erase, Stmt.layoutAll_eraseAll,
        erase_name]
  | record name components =>
      have lines : (RapidLang.erase components).flatMap Component.layout =
          components.flatMap Component.layout := List.flatMap_map _ _ _
      simp only [Decl.erase, layout, heading, lines, erase_name]
  | trap name body =>
      simp only [Decl.erase, layout, heading, Stmt.layoutAll_eraseAll, erase_name]

theorem headsEnd_erase (tree : Decl) : tree.erase.headsEnd = tree.headsEnd := by
  cases tree <;> first | rfl | exact Stmt.headsEndAll_eraseAll _

theorem isData_erase (tree : Decl) : tree.erase.isData = tree.isData := by
  cases tree <;> rfl

theorem layoutAfter_erase (previous : Decl) (trees : List Decl) :
    layoutAfter previous (RapidLang.erase trees) = layoutAfter previous trees := by
  induction trees generalizing previous with
  | nil => rfl
  | cons next rest ih =>
      have data := next.isData_erase
      rw [erase_cons, layoutAfter, layoutAfter, ← ih next, ← layoutAfter_congr data, gap, gap]
      exact congrArg (· ++ _) (data ▸ congrArg _ next.layout_erase)

theorem layoutAll_erase (trees : List Decl) :
    layoutAll (RapidLang.erase trees) = layoutAll trees := by
  cases trees with
  | nil => rfl
  | cons first rest =>
      rw [erase_cons, layoutAll, layoutAll, ← layoutAfter_erase first,
        ← layoutAfter_congr first.isData_erase]
      exact congrArg (· ++ _) first.layout_erase

end Decl

theorem Module.layout_erase (tree : Module) : tree.erase.layout = tree.layout := by
  simp only [Module.erase, layout, Decl.layoutAll_erase, erase_name]

theorem Module.headsEnd_erase (tree : Module) : tree.erase.headsEnd = tree.headsEnd := by
  have each : ∀ declaration : Decl, (RapidLang.erase declaration).headsEnd = declaration.headsEnd :=
    Decl.headsEnd_erase
  simp only [Module.headsEnd, Module.erase]
  exact List.all_map.trans (congrArg _ (funext each))

/-- A program is laid out like the program without its spans. -/
theorem Program.layout_erase (tree : Program) : tree.erase.layout = tree.layout := by
  have each : ∀ content : Module, (RapidLang.erase content).layout = content.layout :=
    Module.layout_erase
  obtain ⟨modules, span⟩ := tree
  cases modules with
  | nil => rfl
  | cons first rest =>
      have behind : (RapidLang.erase rest).flatMap (fun content => .blankLine :: content.layout) =
          rest.flatMap fun content => .blankLine :: content.layout := by
        refine (List.flatMap_map _ _ _).trans ?_
        simp only [each]
      simp only [layout, Program.erase, erase_cons, Module.layoutAll_cons, each, behind]

theorem Program.headsEnd_erase (tree : Program) : tree.erase.headsEnd = tree.headsEnd := by
  have each : ∀ content : Module, (RapidLang.erase content).headsEnd = content.headsEnd :=
    Module.headsEnd_erase
  simp only [Program.headsEnd, Program.erase]
  exact List.all_map.trans (congrArg _ (funext each))

end RapidLang
