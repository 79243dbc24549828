import RapidLang.Layout.Program
import RapidLang.Proofs.Layout.Expression

/-!
# Statements read back

The printed lines of a statement form a loose statement that is laid out alike. Where the heads of
all loops end before their bodies, no head runs on.
-/

set_option autoImplicit false

namespace RapidLang

open Text Grammar RapidLang.Parser

/-! ## Heads of loops -/

/-- The first character of a statement that begins with an expression. -/
def Stmt.firstChar : Stmt → Option Char
  | .assign target _ _ => target.render.toList.head?
  | .expression value _ => value.render.toList.head?
  | _ => none

/-- Does the printed head of a loop end before the printed statements of the loop? -/
def headEnds (head : Expr) (body : List Stmt) : Bool :=
  endsBefore head.layoutTail (body.head?.bind Stmt.firstChar)

mutual

/-- Do the heads of all loops in a statement end? -/
def Stmt.headsEnd : Stmt → Bool
  | .block body _ => Stmt.headsEndAll body
  | .conditional branches otherwise _ =>
    Branch.headsEndAll branches && Stmt.headsEndOptional otherwise
  | .while condition body _ => headEnds condition body && Stmt.headsEndAll body
  | .for _ _ last body _ => headEnds last body && Stmt.headsEndAll body
  | .test _ arms default _ => Arm.headsEndAll arms && Stmt.headsEndOptional default
  | _ => true

/-- Do the heads of all loops in several statements end? -/
def Stmt.headsEndAll : List Stmt → Bool
  | [] => true
  | first :: rest => Stmt.headsEnd first && Stmt.headsEndAll rest

/-- Do the heads of all loops in a body end that may be missing? -/
def Stmt.headsEndOptional : Option (List Stmt) → Bool
  | none => true
  | some body => Stmt.headsEndAll body

/-- Do the heads of all loops in a branch end? -/
def Branch.headsEnd : Branch → Bool
  | .mk _ body _ => Stmt.headsEndAll body

/-- Do the heads of all loops in several branches end? -/
def Branch.headsEndAll : List Branch → Bool
  | [] => true
  | first :: rest => Branch.headsEnd first && Branch.headsEndAll rest

/-- Do the heads of all loops in an arm end? -/
def Arm.headsEnd : Arm → Bool
  | .mk _ body _ => Stmt.headsEndAll body

/-- Do the heads of all loops in several arms end? -/
def Arm.headsEndAll : List Arm → Bool
  | [] => true
  | first :: rest => Arm.headsEnd first && Arm.headsEndAll rest

end

/-! ## Lists of statements, branches and arms -/

theorem Stmt.layoutAll_eq (statements : List Stmt) :
    Stmt.layoutAll statements = statements.flatMap Stmt.layout := by
  induction statements with
  | nil => rfl
  | cons first rest ih => exact congrArg (first.layout ++ ·) ih

theorem Stmt.layoutAll_snoc (statements : List Stmt) (last : Stmt) :
    Stmt.layoutAll (statements ++ [last]) = Stmt.layoutAll statements ++ last.layout := by
  simp [Stmt.layoutAll_eq]

theorem Stmt.headsEndAll_snoc (statements : List Stmt) (last : Stmt) :
    Stmt.headsEndAll (statements ++ [last]) = (Stmt.headsEndAll statements && last.headsEnd) := by
  induction statements with
  | nil => simp [Stmt.headsEndAll]
  | cons first rest ih => simp [Stmt.headsEndAll, ih, Bool.and_assoc]

theorem Branch.layoutAll_snoc {branches : List Branch} (some : branches ≠ []) (word : String)
    (last : Branch) : Branch.layoutAll word (branches ++ [last]) =
      Branch.layoutAll word branches ++ Branch.layout "ELSEIF " last := by
  induction branches generalizing word with
  | nil => exact absurd rfl some
  | cons first rest ih =>
      cases rest with
      | nil => simp [Branch.layoutAll]
      | cons second rest =>
          have step := congrArg (Branch.layout word first ++ ·) (ih (List.cons_ne_nil _ _) "ELSEIF ")
          exact step.trans (List.append_assoc _ _ _).symm

theorem Branch.headsEndAll_snoc (branches : List Branch) (last : Branch) :
    Branch.headsEndAll (branches ++ [last]) = (Branch.headsEndAll branches && last.headsEnd) := by
  induction branches with
  | nil => simp [Branch.headsEndAll]
  | cons first rest ih => simp [Branch.headsEndAll, ih, Bool.and_assoc]

theorem Arm.layoutAll_snoc (arms : List Arm) (last : Arm) :
    Arm.layoutAll (arms ++ [last]) = Arm.layoutAll arms ++ last.layout := by
  induction arms with
  | nil => simp [Arm.layoutAll]
  | cons first rest ih => simp [Arm.layoutAll, ih]

theorem Arm.headsEndAll_snoc (arms : List Arm) (last : Arm) :
    Arm.headsEndAll (arms ++ [last]) = (Arm.headsEndAll arms && last.headsEnd) := by
  induction arms with
  | nil => simp [Arm.headsEndAll]
  | cons first rest ih => simp [Arm.headsEndAll, ih, Bool.and_assoc]

/-! ## What stands behind the head of a loop -/

namespace Entry

variable {first : Option Char} {lexemes : List Lexeme}

theorem append (entry : Entry first lexemes) (inside : nextKind lexemes ≠ .endOfInput)
    (rest : List Lexeme) : Entry first (lexemes ++ rest) := by
  unfold Entry
  rw [nextKind_append inside]
  rcases entry with plain | ⟨⟨front, more, mark, tree, tail, rfl, operation, mark'⟩, known⟩
  · exact .inl plain
  · exact .inr ⟨⟨front, more ++ rest, mark, tree, tail, by simp, operation, mark'⟩, known⟩

theorem of_keyword {first : Lexeme} {rest : List Lexeme} (plain : IsPlain first.kind) :
    Entry none (first :: rest) :=
  .inl plain

/-- A head whose first character behind it is harmless ends there; every other head runs on into an
expression. -/
theorem headMeets {sure : Prop} {tail : Tail} {close : Lexeme} (entry : Entry first lexemes)
    (plain : IsPlain close.kind) (ends : sure → endsBefore tail first) :
    HeadMeets sure tail (lexemes ++ [close]) := by
  by_cases inside : nextKind lexemes = .endOfInput
  · rcases entry with _ | ⟨⟨front, more, mark, tree, tail, rfl, operation, _⟩, _⟩
    · cases lexemes with
      | nil => exact .inl plain.stops
      | cons lexeme rest =>
          have plain' : IsPlain lexeme.kind := by
            rw [show lexeme.kind = .endOfInput from inside]
            exact ⟨rfl, rfl⟩
          exact .inl plain'.stops
    · rw [nextKind_append_of_starts operation.starts] at inside
      exact absurd inside (ne_endOfInput_of_startsExpression operation.starts)
  rcases entry.append inside [close] with plain | ⟨simple, c, known, opens⟩
  · exact .inl plain.stops
  by_cases stops : Stops 1 tail (nextKind (lexemes ++ [close]))
  · exact .inl stops
  refine .inr ⟨fun holds => stops ?_, stops, simple⟩
  obtain ⟨front, more, mark, tree, tail', split, operation, _⟩ := simple
  have starts := operation.starts
  replace ends := ends holds
  rw [split, nextKind_append_of_starts operation.starts] at opens ⊢
  rw [known] at ends
  generalize nextKind front = kind at starts opens
  have harmless : (c == '-') = false ∧ (c == '+') = false ∧ ((c == '(') = true → tail ≠ .chain) := by
    unfold endsBefore at ends
    split at ends <;> simp_all
  refine ⟨fun operator found => ?_, fun chained => ?_⟩
  · rw [opensWith, harmless.1, harmless.2.1] at opens
    cases kind <;> first
      | exact absurd starts (by decide)
      | (cases found; done)
      | simp at opens
  · have apart : (c == '(') = false := by
      by_contra parenthesis
      exact harmless.2.2 (by simpa using parenthesis) chained
    rw [opensWith, apart] at opens
    cases kind <;> first | rfl | exact absurd starts (by decide) | simp at opens

end Entry

/-! ## Statements that hold no others -/

/-- The lexeme of a word that declares data. -/
def Storage.lexeme : Storage → Lexeme
  | .var => ⟨.var, "VAR"⟩
  | .pers => ⟨.pers, "PERS"⟩
  | .const => ⟨.const, "CONST"⟩

/-- The lexeme of an instruction that commands a motion. -/
def Motion.lexeme : Motion → Lexeme
  | .joint => ⟨.moveJ, "MoveJ"⟩
  | .linear => ⟨.moveL, "MoveL"⟩
  | .circular => ⟨.moveC, "MoveC"⟩

variable {sure exact : Prop}

theorem Written.lexes {word : Lexeme} (written : Written word) (kind : word.kind = .identifier) :
    Lexes word.text.toList [word] :=
  (Spells.of_written written (.inl kind)).lexes

/-- A value behind an assignment mark. -/
theorem initial_some {lexemes : List Lexeme} {value : Expr} {tail : Tail}
    (operation : Expression lexemes value tail) :
    Initial (⟨.assign, ":="⟩ :: lexemes) (some value) :=
  .some rfl operation

theorem DataItem.readsBack {storage : Storage} {type name : Lexeme} {initial read : Option Expr}
    (written : Written type) (typed : type.kind = .identifier) (written' : Written name)
    (named : name.kind = .identifier) (values : Option.Rel (Expr.Printed exact) initial read) :
    ReadsBack exact layout DataDeclaration
      ⟨storage, ⟨type.text, .origin⟩, ⟨name.text, .origin⟩, initial⟩
      ⟨storage, ⟨type.text, .origin⟩, ⟨name.text, .origin⟩, read⟩ := by
  have opening : Leads (storage.word ++ " ") [storage.lexeme] := by
    cases storage <;> decide
  have kind : storage? storage.lexeme.kind = some storage := by
    cases storage <;> rfl
  have introduced := (Lexes.behind opening (written.lexes typed)).separate
    (show Separates " " [] by decide) (written'.lexes named)
  have phrase : ∀ {lexemes value}, Initial lexemes value →
      DataDeclaration ([storage.lexeme, type, name] ++ lexemes ++ [⟨.semicolon, ";"⟩])
        ⟨storage, ⟨type.text, .origin⟩, ⟨name.text, .origin⟩, value⟩ := by
    intro lexemes value initial
    exact .mk kind typed named initial rfl
  cases values with
  | none =>
      refine ⟨rfl, fun _ => rfl, _, ?_, phrase .none⟩
      simpa [layout, heading] using introduced.closed
  | some printed =>
      obtain ⟨lexemes, spells, operation⟩ := printed.expression
      have lays := (introduced.separate (show Separates " := " [⟨.assign, ":="⟩] by decide)
        spells.lexes).closed
      refine ⟨?_, fun holds => by rw [printed.rereads.same holds], _, ?_,
        phrase (initial_some operation)⟩
      · simp only [layout, heading, printed.rereads.render]
      · simpa [layout, heading, String.append_assoc] using lays

namespace Stmt

/-- What the printed lines of a statement are read back as. -/
def Printed (sure exact : Prop) (tree read : Stmt) : Prop :=
  ReadsBack exact layout
    (fun lexemes read => LooseStatement sure lexemes read ∧ Entry tree.firstChar lexemes) tree read

theorem printed_expression {tree read : Expr} (printed : Expr.Printed exact tree read) :
    Printed sure exact (.expression tree .origin) (.expression read .origin) := by
  obtain ⟨lexemes, lays, statement, entry⟩ := printed.statement
  refine ⟨printed.rereads.statement, fun holds => ?_, lexemes, lays, .simple statement rfl, entry⟩
  rw [printed.rereads.same holds]

theorem printed_assign {target value left right : Expr} (printed : Expr.Printed exact target left)
    (printed' : Expr.Printed exact value right) :
    Printed sure exact (.assign target value .origin) (.assign left right .origin) := by
  obtain ⟨lexemes, spells, operation⟩ := printed.expression
  obtain ⟨rest, spells', operation'⟩ := printed'.expression
  have lays := (spells.lexes.separate (show Separates " := " [⟨.assign, ":="⟩] by decide)
    spells'.lexes).closed
  refine ⟨?_, fun holds => ?_, _, lays, .simple ?_ rfl, ?_⟩
  · simp only [layout, printed.rereads.render, printed'.rereads.render]
  · rw [printed.rereads.same holds, printed'.rereads.same holds]
  · simpa using Statement.assign operation rfl operation' rfl
  · rw [List.append_assoc, List.append_assoc]
    exact spells.entry operation (.inl rfl)

theorem printed_returnNone : Printed sure exact (.return none .origin) (.return none .origin) := by
  refine ⟨rfl, fun _ => rfl, [⟨.return, "RETURN"⟩, ⟨.semicolon, ";"⟩], .line (by decide), ?_, ?_⟩
  · exact .simple (.returnNone rfl rfl) rfl
  · exact .of_keyword ⟨rfl, rfl⟩

theorem printed_returnSome {tree read : Expr} (printed : Expr.Printed exact tree read) :
    Printed sure exact (.return (some tree) .origin) (.return (some read) .origin) := by
  obtain ⟨lexemes, spells, operation⟩ := printed.expression
  have lays := (Lexes.behind (show Leads "RETURN " [⟨.return, "RETURN"⟩] by decide)
    spells.lexes).closed
  refine ⟨?_, fun holds => ?_, _, lays, .simple (.returnSome rfl operation rfl) rfl, ?_⟩
  · simp only [layout, printed.rereads.render]
  · rw [printed.rereads.same holds]
  · exact .of_keyword ⟨rfl, rfl⟩

theorem printed_connect {trap error : Lexeme} (written : Written trap)
    (kind : trap.kind = .identifier) (written' : Written error) (kind' : error.kind = .identifier) :
    Printed sure exact (.connect ⟨trap.text, .origin⟩ ⟨error.text, .origin⟩ .origin)
      (.connect ⟨trap.text, .origin⟩ ⟨error.text, .origin⟩ .origin) := by
  have lays := ((Lexes.behind (show Leads "CONNECT " [⟨.connect, "CONNECT"⟩] by decide)
    (written.lexes kind)).separate (show Separates " WITH " [⟨.with, "WITH"⟩] by decide)
      (written'.lexes kind')).closed
  refine ⟨rfl, fun _ => rfl, _, lays, .simple (.connect rfl kind rfl kind' rfl) rfl, ?_⟩
  exact .of_keyword ⟨rfl, rfl⟩

theorem printed_raise {error : Lexeme} (written : Written error) (kind : error.kind = .identifier) :
    Printed sure exact (.raise ⟨error.text, .origin⟩ .origin)
      (.raise ⟨error.text, .origin⟩ .origin) := by
  have lays := (Lexes.behind (show Leads "RAISE " [⟨.raise, "RAISE"⟩] by decide)
    (written.lexes kind)).closed
  exact ⟨rfl, fun _ => rfl, _, lays, .simple (.raise rfl kind rfl) rfl, .of_keyword ⟨rfl, rfl⟩⟩

theorem printed_data {item read : DataItem}
    (back : ReadsBack exact DataItem.layout DataDeclaration item read) :
    Printed sure exact (.data item .origin) (.data read .origin) := by
  obtain ⟨lexemes, lays, declaration⟩ := back.lines
  refine ⟨back.alike, fun holds => by rw [back.same holds], lexemes, lays,
    .simple (.data declaration) rfl, .inl ?_⟩
  obtain ⟨storage, opening⟩ := declaration.starts
  generalize nextKind lexemes = kind at opening
  cases kind <;> first | exact ⟨rfl, rfl⟩ | cases opening

/-- How the optional argument of a motion is printed. -/
def workObjectText (workObject : Option Expr) : String :=
  workObject.elim "" fun value => "\\WObj:=" ++ value.render

theorem operands_eq (motion : Motion) {target speed zone tool : Expr} {workObject : Option Expr} :
    Move.operands ⟨motion, target, speed, zone, tool, workObject⟩ =
      [target.render, speed.render, zone.render, tool.render ++ workObjectText workObject] := by
  cases workObject <;> rfl

theorem workObjectText_eq {workObject read : Option Expr}
    (values : Option.Rel (Expr.Printed exact) workObject read) :
    workObjectText read = workObjectText workObject := by
  cases values with
  | none => rfl
  | some printed => exact congrArg ("\\WObj:=" ++ ·) printed.rereads.render

theorem eq_of_printed {tree read : Option Expr} (values : Option.Rel (Expr.Printed exact) tree read)
    (holds : exact) : read = tree := by
  cases values with
  | none => rfl
  | some printed => rw [printed.rereads.same holds]

/-- The last operand of a motion with the work object behind it. -/
theorem tool_spells {text : String} {lexemes : List Lexeme} {workObject read : Option Expr}
    (spells : Spells text lexemes) (values : Option.Rel (Expr.Printed exact) workObject read) :
    ∃ rest, Spells (text ++ workObjectText workObject)
      (lexemes ++ rest) ∧ Switches rest read := by
  cases values with
  | none =>
      refine ⟨[], ?_, .none⟩
      simpa [workObjectText] using spells
  | @some value _ printed =>
      obtain ⟨rest, spells', operation⟩ := printed.expression
      have fresh : startsFresh ("\\WObj:=" ++ value.render).toList := by
        rw [String.toList_append]
        rfl
      have opening : Leads "\\WObj:="
          [⟨.backslash, "\\"⟩, ⟨.identifier, "WObj"⟩, ⟨.assign, ":="⟩] := by
        decide
      have known : sameWord "WObj" "WObj" := by decide
      have switches : Switches ([] ++ ⟨.backslash, "\\"⟩ :: ⟨.identifier, "WObj"⟩ :: _) _ :=
        .more .none rfl rfl (initial_some operation)
      rw [if_pos known] at switches
      exact ⟨_, spells.put (Lexes.behind opening spells'.lexes) (.inr fresh), switches⟩

theorem printed_move {motion : Motion} {target speed zone tool goal pace area gear : Expr}
    {workObject read : Option Expr} (printedGoal : Expr.Printed exact target goal)
    (printedPace : Expr.Printed exact speed pace) (printedArea : Expr.Printed exact zone area)
    (printedGear : Expr.Printed exact tool gear)
    (values : Option.Rel (Expr.Printed exact) workObject read) :
    Printed sure exact (.move ⟨motion, target, speed, zone, tool, workObject⟩ .origin)
      (.move ⟨motion, goal, pace, area, gear, read⟩ .origin) := by
  obtain ⟨goals, goalSpells, goalPhrase⟩ := printedGoal.expression
  obtain ⟨paces, paceSpells, pacePhrase⟩ := printedPace.expression
  obtain ⟨areas, areaSpells, areaPhrase⟩ := printedArea.expression
  obtain ⟨gears, gearSpells, gearPhrase⟩ := printedGear.expression
  obtain ⟨rest, toolSpells, switches⟩ := tool_spells gearSpells values
  have opening : Leads (motion.instruction ++ " ") [motion.lexeme] ∧
      (motion.instruction ++ " ").toList ≠ [] := by
    cases motion <;> decide
  have kind : motion? motion.lexeme.kind = some motion := by
    cases motion <;> rfl
  have list := ListLexes.more goalSpells.lexes goalSpells.filled <|
    .more paceSpells.lexes paceSpells.filled <| .more areaSpells.lexes areaSpells.filled <|
      .one toolSpells.lexes toolSpells.filled
  have lays := Lays.listed opening.1.1 opening.2 opening.1.2 list
  rw [← operands_eq motion] at lays
  refine ⟨?_, fun holds => ?_, _, lays, .simple ?_ rfl, ?_⟩
  · simp only [layout, operands_eq, workObjectText_eq values, printedGoal.rereads.render,
      printedPace.rereads.render, printedArea.rereads.render, printedGear.rereads.render]
  · rw [printedGoal.rereads.same holds, printedPace.rereads.same holds,
      printedArea.rereads.same holds, printedGear.rereads.same holds, eq_of_printed values holds]
  · simpa using Statement.move kind goalPhrase rfl pacePhrase rfl areaPhrase rfl gearPhrase
      switches rfl
  · refine .of_keyword ?_
    cases motion <;> exact ⟨rfl, rfl⟩

/-! ## Bodies -/

/-- What the printed lines of several statements are read back as. -/
def AllPrinted (sure exact : Prop) (trees reads : List Stmt) : Prop :=
  ReadsBack exact layoutAll (fun lexemes reads => LooseBody sure lexemes reads ∧
    Entry (trees.head?.bind firstChar) lexemes ∧ (lexemes = [] ↔ trees = [])) trees reads

theorem AllPrinted.nil : AllPrinted sure exact [] [] :=
  ⟨rfl, fun _ => rfl, [], .nil, .nil, .inl ⟨rfl, rfl⟩, fun _ => rfl, fun _ => rfl⟩

theorem AllPrinted.snoc {trees reads : List Stmt} {tree read : Stmt}
    (earlier : AllPrinted sure exact trees reads) (last : Printed sure exact tree read) :
    AllPrinted sure exact (trees ++ [tree]) (reads ++ [read]) := by
  refine ReadsBack.append earlier last (fun statements statement => statements ++ [statement])
    (layoutAll_snoc _ _) (layoutAll_snoc _ _) ?_
  rintro lexemes rest ⟨body, entry, empty⟩ ⟨statement, entry'⟩
  refine ⟨.snoc body statement, ?_, ?_⟩
  · by_cases none : lexemes = []
    · rw [none, empty.mp none]
      exact entry'
    · have inside := ne_endOfInput_of_startsStatement (body.starts.resolve_left none)
      rw [List.head?_append_of_ne_nil _ (mt empty.mpr none)]
      exact entry.append inside rest
  · simp [statement.ne_nil]

/-- The lines of a body under a heading, where there is one. -/
theorem printed_optional {word : String} {opening : List Lexeme}
    {phrase : List Lexeme → Option (List Stmt) → Prop} {tree read : Option (List Stmt)}
    (lexes : Lexes word.toList opening) (missing : phrase [] none)
    (present : ∀ lexemes body, LooseBody sure lexemes body → phrase (opening ++ lexemes) (some body))
    (bodies : Option.Rel (AllPrinted sure exact) tree read) :
    ReadsBack exact (layoutOptional word) phrase tree read := by
  cases bodies with
  | none => exact ⟨rfl, fun _ => rfl, [], .nil, missing⟩
  | some printed =>
      obtain ⟨lexemes, lays, body, _⟩ := printed.lines
      refine ⟨?_, fun holds => by rw [printed.same holds], _, (Lays.line lexes).append lays.indented,
        present lexemes _ body⟩
      simp only [layoutOptional, printed.alike]

/-! ## Loops -/

theorem printed_while {condition head : Expr} {body reads : List Stmt}
    (printed : Expr.Printed exact condition head) (statements : AllPrinted sure exact body reads)
    (ends : sure → headEnds condition body) :
    Printed sure exact (.while condition body .origin) (.while head reads .origin) := by
  obtain ⟨front, spells, operation⟩ := printed.expression
  obtain ⟨lexemes, lays, phrase, entry, _⟩ := statements.lines
  have opening := Lexes.behind (show Leads "WHILE " [⟨.while, "WHILE"⟩] by decide) spells.lexes
  have lines := lays.bracketed opening
    (show Lexes "ENDWHILE".toList [⟨.endWhile, "ENDWHILE"⟩] by decide)
  refine ⟨?_, fun holds => ?_, _, lines, ?_, .of_keyword ⟨rfl, rfl⟩⟩
  · simp only [layout, printed.rereads.render, statements.alike]
  · rw [printed.rereads.same holds, statements.same holds]
  · have meets : HeadMeets sure condition.layoutTail (lexemes ++ [⟨.endWhile, "ENDWHILE"⟩]) :=
      entry.headMeets ⟨rfl, rfl⟩ ends
    simpa using LooseStatement.while rfl operation meets phrase rfl

theorem printed_for {counter : Lexeme} {first last low high : Expr} {body reads : List Stmt}
    (written : Written counter) (kind : counter.kind = .identifier)
    (printedLow : Expr.Printed exact first low) (printedHigh : Expr.Printed exact last high)
    (statements : AllPrinted sure exact body reads) (ends : sure → headEnds last body) :
    Printed sure exact (.for ⟨counter.text, .origin⟩ first last body .origin)
      (.for ⟨counter.text, .origin⟩ low high reads .origin) := by
  obtain ⟨lows, lowSpells, lowPhrase⟩ := printedLow.expression
  obtain ⟨highs, highSpells, highPhrase⟩ := printedHigh.expression
  obtain ⟨lexemes, lays, phrase, entry, _⟩ := statements.lines
  have opening := ((Lexes.behind (show Leads "FOR " [⟨.for, "FOR"⟩] by decide)
    (written.lexes kind)).separate (show Separates " FROM " [⟨.from, "FROM"⟩] by decide)
      lowSpells.lexes).separate (show Separates " TO " [⟨.to, "TO"⟩] by decide) highSpells.lexes
  have lines := lays.bracketed opening
    (show Lexes "ENDFOR".toList [⟨.endFor, "ENDFOR"⟩] by decide)
  refine ⟨?_, fun holds => ?_, _, lines, ?_, .of_keyword ⟨rfl, rfl⟩⟩
  · simp only [layout, printedLow.rereads.render, printedHigh.rereads.render, statements.alike]
  · rw [printedLow.rereads.same holds, printedHigh.rereads.same holds, statements.same holds]
  · have meets : HeadMeets sure last.layoutTail (lexemes ++ [⟨.endFor, "ENDFOR"⟩]) :=
      entry.headMeets ⟨rfl, rfl⟩ ends
    simpa using LooseStatement.for rfl kind rfl lowPhrase rfl highPhrase meets phrase rfl

/-! ## Conditionals -/

/-- What the printed lines of the branches of a conditional are read back as. -/
def BranchesPrinted (sure exact : Prop) (trees reads : List Branch) : Prop :=
  ReadsBack exact (Branch.layoutAll "IF ")
    (fun lexemes reads => LooseBranches sure lexemes reads ∧ trees ≠ []) trees reads

theorem printed_guarded {kind : TokenKind} {word : String} {opening : Lexeme}
    {condition head : Expr} {body reads : List Stmt} (leads : Leads word [opening])
    (kind' : opening.kind = kind) (printed : Expr.Printed exact condition head)
    (statements : AllPrinted sure exact body reads) :
    ReadsBack exact (Branch.layout word) (LooseGuarded sure kind) (.mk condition body .origin)
      (.mk head reads .origin) := by
  obtain ⟨front, spells, operation⟩ := printed.expression
  obtain ⟨lexemes, lays, phrase, _⟩ := statements.lines
  have heading := (Lexes.behind leads spells.lexes).put
    (show Lexes " THEN".toList [⟨.then, "THEN"⟩] by decide) (.inr (by decide))
  refine ⟨?_, fun holds => ?_, _, (Lays.line heading).append lays.indented, ?_⟩
  · simp only [Branch.layout, printed.rereads.render, statements.alike]
  · rw [printed.rereads.same holds, statements.same holds]
  · simpa using LooseGuarded.mk kind' operation rfl phrase

theorem BranchesPrinted.first {tree read : Branch}
    (printed : ReadsBack exact (Branch.layout "IF ") (LooseGuarded sure .if) tree read) :
    BranchesPrinted sure exact [tree] [read] := by
  obtain ⟨lexemes, lays, guarded⟩ := printed.lines
  have one : ∀ branch, Branch.layoutAll "IF " [branch] = Branch.layout "IF " branch := fun branch =>
    List.append_nil _
  refine ⟨?_, fun holds => by rw [printed.same holds], lexemes, ?_, .first guarded,
    List.cons_ne_nil _ _⟩
  · rw [one, one, printed.alike]
  · rwa [one]

theorem BranchesPrinted.snoc {trees reads : List Branch} {tree read : Branch}
    (earlier : BranchesPrinted sure exact trees reads)
    (printed : ReadsBack exact (Branch.layout "ELSEIF ") (LooseGuarded sure .elseIf) tree read) :
    BranchesPrinted sure exact (trees ++ [tree]) (reads ++ [read]) := by
  obtain ⟨_, _, branches, some⟩ := earlier.lines
  obtain ⟨_, _, _, _, _, split, _⟩ := branches.split
  have some' : reads ≠ [] := split ▸ List.cons_ne_nil _ _
  refine ReadsBack.append earlier printed (fun branches branch => branches ++ [branch])
    (Branch.layoutAll_snoc some _ _) (Branch.layoutAll_snoc some' _ _) ?_
  rintro lexemes rest ⟨branches, _⟩ guarded
  exact ⟨.more branches guarded, by simp⟩

theorem printed_conditional {trees reads : List Branch} {otherwise last : Option (List Stmt)}
    (branches : BranchesPrinted sure exact trees reads)
    (bodies : Option.Rel (AllPrinted sure exact) otherwise last) :
    Printed sure exact (.conditional trees otherwise .origin) (.conditional reads last .origin) := by
  obtain ⟨lexemes, lays, phrase, _⟩ := branches.lines
  have tail : ReadsBack exact (layoutOptional "ELSE") (LooseOtherwise sure) otherwise last :=
    printed_optional (show Lexes "ELSE".toList [⟨.else, "ELSE"⟩] by decide) .none
      (fun _ _ body => .some rfl body) bodies
  obtain ⟨rest, lays', phrase'⟩ := tail.lines
  have lines := (lays.append lays').append
    (Lays.line (show Lexes "ENDIF".toList [⟨.endIf, "ENDIF"⟩] by decide))
  refine ⟨?_, fun holds => ?_, _, lines, ?_, .inl ?_⟩
  · simp only [layout, branches.alike, tail.alike]
  · rw [branches.same holds, tail.same holds]
  · rw [List.append_assoc]
    exact .conditional phrase phrase' rfl
  · rw [List.append_assoc, nextKind_append (by rw [phrase.starts]; decide), phrase.starts]
    exact ⟨rfl, rfl⟩

/-! ## Selections -/

/-- What the printed lines of the arms of a selection are read back as. -/
def ArmsPrinted (sure exact : Prop) (trees reads : List Arm) : Prop :=
  ReadsBack exact Arm.layoutAll (fun lexemes reads => ∃ parts, LooseParts sure lexemes parts ∧
    armsOf parts = reads ∧ defaultOf parts = none) trees reads

theorem ArmsPrinted.nil : ArmsPrinted sure exact [] [] :=
  ⟨rfl, fun _ => rfl, [], .nil, [], .nil, rfl, rfl⟩

theorem ArmsPrinted.snoc {trees reads : List Arm} {values texts : List Expr} {head : List Lexeme}
    {body statements : List Stmt} (earlier : ArmsPrinted sure exact trees reads)
    (list : Expr.ListPrinted exact values texts head)
    (printed : AllPrinted sure exact body statements) :
    ArmsPrinted sure exact (trees ++ [.mk values body .origin])
      (reads ++ [.mk texts statements .origin]) := by
  obtain ⟨lexemes, lays, phrase, _⟩ := printed.lines
  have heading := (Lexes.behind (show Leads "CASE " [⟨.case, "CASE"⟩] by decide)
    list.list.joined).put (show Lexes ":".toList [⟨.colon, ":"⟩] by decide) (.inr (by decide))
  have arm : ReadsBack exact Arm.layout (fun lexemes read => LoosePart sure lexemes (.arm read))
      (.mk values body .origin) (.mk texts statements .origin) := by
    refine ⟨?_, fun holds => ?_, _, (Lays.line heading).append lays.indented, ?_⟩
    · simp only [Arm.layout, list.render, printed.alike]
    · rw [list.same holds, printed.same holds]
    · simpa using LoosePart.arm rfl list.phrase rfl phrase
  refine ReadsBack.append earlier arm (fun arms arm => arms ++ [arm]) (Arm.layoutAll_snoc _ _)
    (Arm.layoutAll_snoc _ _) ?_
  rintro lexemes rest ⟨parts, many, rfl, none⟩ part
  refine ⟨_, .snoc many part, ?_, ?_⟩
  · simp [armsOf]
  · simpa [defaultOf] using none

theorem printed_test {subject head : Expr} {trees reads : List Arm}
    {default last : Option (List Stmt)} (printed : Expr.Printed exact subject head)
    (arms : ArmsPrinted sure exact trees reads)
    (bodies : Option.Rel (AllPrinted sure exact) default last) :
    Printed sure exact (.test subject trees default .origin) (.test head reads last .origin) := by
  obtain ⟨front, spells, operation⟩ := printed.expression
  have rest : ReadsBack exact (layoutOptional "DEFAULT:") (fun lexemes default =>
      lexemes = [] ∧ default = none ∨
        ∃ body, LoosePart sure lexemes (.default body) ∧ default = some body) default last :=
    printed_optional (show Lexes "DEFAULT:".toList [⟨.default, "DEFAULT"⟩, ⟨.colon, ":"⟩] by decide)
      (.inl ⟨rfl, rfl⟩) (fun _ body phrase => .inr ⟨body, .default rfl rfl phrase, rfl⟩) bodies
  obtain ⟨lexemes, lays, parts, many, rfl, none⟩ := arms.lines
  obtain ⟨more, lays', phrase⟩ := rest.lines
  obtain ⟨parts', many', same, last'⟩ : ∃ parts', LooseParts sure (lexemes ++ more) parts' ∧
      armsOf parts' = armsOf parts ∧ defaultOf parts' = last := by
    obtain ⟨rfl, rfl⟩ | ⟨body, part, rfl⟩ := phrase
    · exact ⟨parts, by simpa using many, rfl, none⟩
    · exact ⟨_, .snoc many part, by simp [armsOf], by simp [defaultOf]⟩
  have heading := Lexes.behind (show Leads "TEST " [⟨.test, "TEST"⟩] by decide) spells.lexes
  have lines := (lays.append lays').bracketed heading
    (show Lexes "ENDTEST".toList [⟨.endTest, "ENDTEST"⟩] by decide)
  refine ⟨?_, fun holds => ?_, _, lines, ?_, .of_keyword ⟨rfl, rfl⟩⟩
  · simp only [layout, printed.rereads.render, arms.alike, rest.alike]
  · rw [printed.rereads.same holds, arms.same holds, rest.same holds]
  · have whole : LooseStatement sure
        (⟨.test, "TEST"⟩ :: (front ++ (lexemes ++ more ++ [⟨.endTest, "ENDTEST"⟩])))
        (.test head (armsOf parts') (defaultOf parts') .origin) := .test rfl operation many' rfl
    rw [same, last'] at whole
    simpa using whole

end Stmt

/-! ## The statements of a text -/

mutual

/-- An expression that is just a name is one word. -/
theorem Grammar.Operation.word_of_variable {name : Name} : ∀ {level : Nat} {lexemes : List Lexeme}
    {tree : Expr} {tail : Tail}, Operation level lexemes tree tail → tree = .variable name →
    ∃ word ∈ lexemes, word.kind = .identifier ∧ name = ⟨word.text, .origin⟩
  | _, _, _, _, .operand operand, same => operand.word_of_variable same
  | _, _, _, _, .binary _ _ _ _, same => nomatch same

theorem Grammar.Unary.word_of_variable {name : Name} : ∀ {lexemes : List Lexeme} {tree : Expr}
    {tail : Tail}, Unary lexemes tree tail → tree = .variable name →
    ∃ word ∈ lexemes, word.kind = .identifier ∧ name = ⟨word.text, .origin⟩
  | _, _, _, .operand primary, same => primary.word_of_variable same
  | _, _, _, .operator _ _, same => nomatch same

theorem Grammar.Primary.word_of_variable {name : Name} : ∀ {lexemes : List Lexeme} {tree : Expr}
    {tail : Tail}, Primary lexemes tree tail → tree = .variable name →
    ∃ word ∈ lexemes, word.kind = .identifier ∧ name = ⟨word.text, .origin⟩
  | _, _, _, .parenthesized _ operation _, same => by
      obtain ⟨word, member, found⟩ := operation.word_of_variable same
      exact ⟨word, by simp [member], found⟩
  | _, _, _, .chain chain, same => by
      obtain ⟨word, rfl, kind, found, _⟩ := chain.of_variable same
      exact ⟨word, by simp, kind, found⟩

end

section Phrases

variable {sure exact : Prop}

open Stmt

theorem Grammar.Initial.printed {lexemes : List Lexeme} {value : Option Expr}
    (initial : Initial lexemes value) (fit : ∀ lexeme ∈ lexemes, Fit exact lexeme) :
    ∃ read, Option.Rel (Expr.Printed exact) value read := by
  cases initial with
  | none => exact ⟨_, .none⟩
  | some _ operation =>
      obtain ⟨read, printed⟩ := operation.printed (all_of_subset fit (by simp +contextual))
      exact ⟨_, .some printed⟩

theorem Grammar.DataDeclaration.readsBack {lexemes : List Lexeme} {item : DataItem}
    (declaration : DataDeclaration lexemes item) (fit : ∀ lexeme ∈ lexemes, Fit exact lexeme) :
    ∃ read, ReadsBack exact DataItem.layout DataDeclaration item read := by
  cases declaration with
  | mk _ typed named initial _ =>
      obtain ⟨value, printed⟩ := initial.printed (all_of_subset fit (by simp +contextual))
      exact ⟨_, DataItem.readsBack (fit _ (by simp)).1 typed (fit _ (by simp)).1 named printed⟩

theorem Grammar.Switches.printed {lexemes : List Lexeme} {value : Option Expr}
    (switches : Switches lexemes value) (fit : ∀ lexeme ∈ lexemes, Fit exact lexeme) :
    ∃ read, Option.Rel (Expr.Printed exact) value read := by
  induction switches with
  | none => exact ⟨_, .none⟩
  | more _ _ _ initial ih =>
      split
      · exact initial.printed (all_of_subset fit (by simp +contextual))
      · exact ih (all_of_subset fit (by simp +contextual))

/-- Both of two conditions. -/
theorem both_of_and {a b : Bool} (both : sure → (a && b) = true) : (sure → a) ∧ (sure → b) :=
  ⟨fun holds => (Bool.and_eq_true_iff.mp (both holds)).1,
    fun holds => (Bool.and_eq_true_iff.mp (both holds)).2⟩

mutual

/-- The printed lines of a statement of a text are read back; unless a head of a loop runs on, so
does none that is read back. -/
theorem Grammar.Statement.printed : ∀ {lexemes : List Lexeme} {tree : Stmt},
    Statement lexemes tree → (∀ lexeme ∈ lexemes, Fit exact lexeme) → (sure → tree.headsEnd) →
    ∃ read, Stmt.Printed sure exact tree read
  | _, _, .assign left _ right _, fit, _ => by
      obtain ⟨target, printed⟩ := left.printed (all_of_subset fit (by simp +contextual))
      obtain ⟨value, printed'⟩ := right.printed (all_of_subset fit (by simp +contextual))
      exact ⟨_, printed_assign printed printed'⟩
  | _, _, .expression operation _, fit, _ => by
      obtain ⟨read, printed⟩ := operation.printed (all_of_subset fit (by simp +contextual))
      exact ⟨_, printed_expression printed⟩
  | _, _, .call operation _ _ list _, fit, _ => by
      obtain ⟨word, member, kind, rfl⟩ := operation.word_of_variable rfl
      obtain ⟨reads, lexemes, printed⟩ := list.printed (all_of_subset fit (by simp +contextual))
      have written := (fit word (by simp [member])).1
      have call := Expr.chainPrinted_call written kind (.inr ⟨lexemes, printed⟩)
      exact ⟨_, printed_expression call.printed⟩
  | _, _, .conditional list last _, fit, ends => by
      obtain ⟨here, within⟩ := both_of_and ends
      obtain ⟨branches, printed⟩ := list.printed (all_of_subset fit (by simp +contextual)) here
      obtain ⟨body, printed'⟩ := last.printed (all_of_subset fit (by simp +contextual)) within
      exact ⟨_, printed_conditional printed printed'⟩
  | _, _, .while _ operation _ body _, fit, ends => by
      obtain ⟨here, within⟩ := both_of_and ends
      obtain ⟨head, printed⟩ := operation.printed (all_of_subset fit (by simp +contextual))
      obtain ⟨reads, printed'⟩ := body.printed (all_of_subset fit (by simp +contextual)) within
      exact ⟨_, printed_while printed printed' here⟩
  | _, _, .for _ kind _ low _ high _ body _, fit, ends => by
      obtain ⟨here, within⟩ := both_of_and ends
      obtain ⟨first, printedLow⟩ := low.printed (all_of_subset fit (by simp +contextual))
      obtain ⟨last, printedHigh⟩ := high.printed (all_of_subset fit (by simp +contextual))
      obtain ⟨reads, printed⟩ := body.printed (all_of_subset fit (by simp +contextual)) within
      exact ⟨_, printed_for (fit _ (by simp)).1 kind printedLow printedHigh printed here⟩
  | _, _, .returnNone _ _, _, _ => ⟨_, printed_returnNone⟩
  | _, _, .returnSome _ operation _, fit, _ => by
      obtain ⟨read, printed⟩ := operation.printed (all_of_subset fit (by simp +contextual))
      exact ⟨_, printed_returnSome printed⟩
  | _, _, .move _ first _ second _ third _ fourth switches _, fit, _ => by
      obtain ⟨goal, printedGoal⟩ := first.printed (all_of_subset fit (by simp +contextual))
      obtain ⟨pace, printedPace⟩ := second.printed (all_of_subset fit (by simp +contextual))
      obtain ⟨area, printedArea⟩ := third.printed (all_of_subset fit (by simp +contextual))
      obtain ⟨gear, printedGear⟩ := fourth.printed (all_of_subset fit (by simp +contextual))
      obtain ⟨read, printed⟩ := switches.printed (all_of_subset fit (by simp +contextual))
      exact ⟨_, printed_move printedGoal printedPace printedArea printedGear printed⟩
  | _, _, .test _ operation selection _, fit, ends => by
      obtain ⟨here, within⟩ := both_of_and ends
      obtain ⟨head, printed⟩ := operation.printed (all_of_subset fit (by simp +contextual))
      obtain ⟨arms, printedArms⟩ :=
        selection.printed_arms (all_of_subset fit (by simp +contextual)) here
      obtain ⟨last, printedLast⟩ :=
        selection.printed_default (all_of_subset fit (by simp +contextual)) within
      exact ⟨_, printed_test printed printedArms printedLast⟩
  | _, _, .connect _ kind _ kind' _, fit, _ =>
      ⟨_, printed_connect (fit _ (by simp)).1 kind (fit _ (by simp)).1 kind'⟩
  | _, _, .raise _ kind _, fit, _ => ⟨_, printed_raise (fit _ (by simp)).1 kind⟩
  | _, _, .data declaration, fit, _ => by
      obtain ⟨read, back⟩ := declaration.readsBack fit
      exact ⟨_, printed_data back⟩

theorem Grammar.Body.printed : ∀ {lexemes : List Lexeme} {trees : List Stmt}, Body lexemes trees →
    (∀ lexeme ∈ lexemes, Fit exact lexeme) → (sure → Stmt.headsEndAll trees) →
    ∃ reads, AllPrinted sure exact trees reads
  | _, _, .nil, _, _ => ⟨[], .nil⟩
  | _, _, .snoc earlier statement, fit, ends => by
      rw [Stmt.headsEndAll_snoc] at ends
      obtain ⟨before, here⟩ := both_of_and ends
      obtain ⟨reads, printed⟩ := earlier.printed (all_of_subset fit (by simp +contextual)) before
      obtain ⟨read, printed'⟩ := statement.printed (all_of_subset fit (by simp +contextual)) here
      exact ⟨_, printed.snoc printed'⟩

theorem Grammar.Guarded.printed : ∀ {kind : TokenKind} {lexemes : List Lexeme} {tree : Branch},
    Guarded kind lexemes tree → (∀ lexeme ∈ lexemes, Fit exact lexeme) → (sure → tree.headsEnd) →
    ∀ (word : String) (opening : Lexeme), Leads word [opening] → opening.kind = kind →
    ∃ read, ReadsBack exact (Branch.layout word) (LooseGuarded sure kind) tree read
  | _, _, _, .mk _ operation _ body, fit, ends, _, _, leads, kind => by
      obtain ⟨head, printed⟩ := operation.printed (all_of_subset fit (by simp +contextual))
      obtain ⟨reads, printed'⟩ := body.printed (all_of_subset fit (by simp +contextual)) ends
      exact ⟨_, printed_guarded leads kind printed printed'⟩

theorem Grammar.Branches.printed : ∀ {lexemes : List Lexeme} {trees : List Branch},
    Branches lexemes trees → (∀ lexeme ∈ lexemes, Fit exact lexeme) →
    (sure → Branch.headsEndAll trees) → ∃ reads, BranchesPrinted sure exact trees reads
  | _, _, .first guarded, fit, ends => by
      obtain ⟨read, printed⟩ := guarded.printed fit (both_of_and ends).1 "IF " ⟨.if, "IF"⟩
        (by decide) rfl
      exact ⟨_, .first printed⟩
  | _, _, .more earlier guarded, fit, ends => by
      rw [Branch.headsEndAll_snoc] at ends
      obtain ⟨before, here⟩ := both_of_and ends
      obtain ⟨reads, printed⟩ := earlier.printed (all_of_subset fit (by simp +contextual)) before
      obtain ⟨read, printed'⟩ := guarded.printed (all_of_subset fit (by simp +contextual)) here
        "ELSEIF " ⟨.elseIf, "ELSEIF"⟩ (by decide) rfl
      exact ⟨_, printed.snoc printed'⟩

theorem Grammar.Otherwise.printed : ∀ {lexemes : List Lexeme} {tree : Option (List Stmt)},
    Otherwise lexemes tree → (∀ lexeme ∈ lexemes, Fit exact lexeme) →
    (sure → Stmt.headsEndOptional tree) → ∃ read, Option.Rel (AllPrinted sure exact) tree read
  | _, _, .none, _, _ => ⟨_, .none⟩
  | _, _, .some _ body, fit, ends => by
      obtain ⟨reads, printed⟩ := body.printed (all_of_subset fit (by simp +contextual)) ends
      exact ⟨_, .some printed⟩

theorem Grammar.Selection.printed_arms : ∀ {lexemes : List Lexeme} {trees : List Arm}
    {default : Option (List Stmt)}, Selection lexemes trees default →
    (∀ lexeme ∈ lexemes, Fit exact lexeme) → (sure → Arm.headsEndAll trees) →
    ∃ reads, ArmsPrinted sure exact trees reads
  | _, _, _, .none, _, _ => ⟨[], .nil⟩
  | _, _, _, .arm earlier _ list _ body, fit, ends => by
      rw [Arm.headsEndAll_snoc] at ends
      obtain ⟨before, here⟩ := both_of_and ends
      obtain ⟨reads, printed⟩ :=
        earlier.printed_arms (all_of_subset fit (by simp +contextual)) before
      obtain ⟨values, head, printed'⟩ := list.printed (all_of_subset fit (by simp +contextual))
      obtain ⟨statements, printed''⟩ := body.printed (all_of_subset fit (by simp +contextual)) here
      exact ⟨_, printed.snoc printed' printed''⟩
  | _, _, _, .default earlier _ _ _, fit, ends =>
      earlier.printed_arms (all_of_subset fit (by simp +contextual)) ends

/-- A default that another one replaces is not printed, and its loops do not matter. -/
theorem Grammar.Selection.printed_default : ∀ {lexemes : List Lexeme} {trees : List Arm}
    {default : Option (List Stmt)}, Selection lexemes trees default →
    (∀ lexeme ∈ lexemes, Fit exact lexeme) → (sure → Stmt.headsEndOptional default) →
    ∃ read, Option.Rel (AllPrinted sure exact) default read
  | _, _, _, .none, _, _ => ⟨_, .none⟩
  | _, _, _, .arm earlier _ _ _ _, fit, ends =>
      earlier.printed_default (all_of_subset fit (by simp +contextual)) ends
  | _, _, _, .default _ _ _ body, fit, ends => by
      obtain ⟨reads, printed⟩ := body.printed (all_of_subset fit (by simp +contextual)) ends
      exact ⟨_, .some printed⟩

end

end Phrases

end RapidLang
