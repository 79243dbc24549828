import Mathlib.Tactic.Order
import RapidLang.Proofs.Parser.Run
import RapidLang.Proofs.Syntax.Nesting

/-!
# Readers that keep spans in order

Tokens are laid out if they follow each other in the text. What a reader makes of such tokens lies
between the place where its next token begins and the place where the next token behind it begins.
One rule for each way of putting readers together carries this from the parts to the whole.
-/

set_option autoImplicit false

namespace RapidLang

open Text

/-! ## Nodes between two places -/

/-- What has a span, and below it other nodes whose spans may be nested. -/
class Node (α : Type) where
  span : α → Span
  Nested : (Name → Prop) → α → Prop

instance : Node Token := ⟨Token.span, fun _ _ => True⟩
instance : Node Name := ⟨Name.span, Name.Nested⟩
instance : Node Expr := ⟨Expr.span, Expr.Nested⟩
instance : Node Stmt := ⟨Stmt.span, Stmt.Nested⟩
instance : Node Branch := ⟨Branch.span, Branch.Nested⟩
instance : Node Arm := ⟨Arm.span, Arm.Nested⟩
instance : Node Parameter := ⟨Parameter.span, Parameter.Nested⟩
instance : Node Component := ⟨Component.span, Component.Nested⟩
instance : Node Decl := ⟨Decl.span, Decl.Nested⟩
instance : Node Module := ⟨Module.span, Module.Nested⟩

/-- The node lies between two places, and its spans are nested. -/
structure Sits {α : Type} [Node α] (named : Name → Prop) (lower upper : Position) (value : α) :
    Prop where
  lower_le : lower ≤ (Node.span value).start
  le_upper : (Node.span value).stop ≤ upper
  nested : Node.Nested named value

/-- The nodes lie between two places, one behind the other, and their spans are nested. -/
structure SitAll {α : Type} [Node α] (named : Name → Prop) (lower upper : Position)
    (values : List α) : Prop where
  sits : ∀ value ∈ values, Sits named lower upper value
  ordered : (values.map Node.span).Pairwise Span.Before

section Places

variable {α : Type} [Node α] {named : Name → Prop} {lower middle upper lower' upper' : Position}
  {value : α} {values others : List α}

namespace Sits

theorem widen (sits : Sits named lower upper value) (below : lower' ≤ lower)
    (above : upper ≤ upper') : Sits named lower' upper' value :=
  ⟨le_trans below sits.lower_le, le_trans sits.le_upper above, sits.nested⟩

theorem within (sits : Sits named lower upper value) (below : lower' ≤ lower)
    (above : upper ≤ upper') : (Node.span value).Within ⟨lower', upper'⟩ :=
  ⟨le_trans below sits.lower_le, le_trans sits.le_upper above⟩

end Sits

namespace SitAll

theorem nil : SitAll named lower upper ([] : List α) :=
  ⟨fun _ member => absurd member List.not_mem_nil, .nil⟩

theorem one (sits : Sits named lower upper value) : SitAll named lower upper [value] :=
  ⟨List.forall_mem_singleton.mpr sits, List.pairwise_singleton _ _⟩

theorem widen (all : SitAll named lower upper values) (below : lower' ≤ lower)
    (above : upper ≤ upper') : SitAll named lower' upper' values :=
  ⟨fun value member => (all.sits value member).widen below above, all.ordered⟩

theorem append (all : SitAll named lower middle values) (all' : SitAll named middle upper others)
    (below : lower ≤ middle) (above : middle ≤ upper) :
    SitAll named lower upper (values ++ others) where
  sits := by
    intro value member
    rcases List.mem_append.mp member with member | member
    · exact (all.sits value member).widen (le_refl lower) above
    · exact (all'.sits value member).widen below (le_refl upper)
  ordered := by
    rw [List.map_append, List.pairwise_append]
    refine ⟨all.ordered, all'.ordered, ?_⟩
    simp only [List.forall_mem_map]
    intro value member other member'
    exact le_trans (all.sits value member).le_upper (all'.sits other member').lower_le

theorem nested (all : SitAll named lower upper values) :
    ∀ value ∈ values, Node.Nested named value :=
  fun value member => (all.sits value member).nested

/-- Nothing of the nodes stands behind the last of them. -/
theorem upto_last {front : List α} {last : α} (all : SitAll named lower upper (front ++ [last]))
    (filled : (Node.span last).Filled) :
    SitAll named lower (Node.span last).stop (front ++ [last]) := by
  refine ⟨fun value member => ?_, all.ordered⟩
  have sits := all.sits value member
  refine ⟨sits.lower_le, ?_, sits.nested⟩
  rcases List.mem_append.mp member with member | member
  · have ordered := all.ordered
    rw [List.map_append, List.pairwise_append] at ordered
    have before : (Node.span value).stop ≤ (Node.span last).start :=
      ordered.2.2 _ (List.mem_map_of_mem member) _ List.mem_cons_self
    exact le_trans before (le_of_lt filled)
  · rw [List.mem_singleton.mp member]

/-- A span that is not empty and covers the places holds the nodes in order. -/
theorem lists (all : SitAll named lower upper values) (filled : lower' < upper')
    (below : lower' ≤ lower) (above : upper ≤ upper') :
    Span.Lists ⟨lower', upper'⟩ (values.map Node.span) := by
  refine ⟨⟨filled, ?_⟩, all.ordered⟩
  simp only [List.forall_mem_map]
  exact fun value member => (all.sits value member).within below above

end SitAll

end Places

namespace Text.Span

variable {left right span part : Span} {parts : List Span}

theorem merge_eq (starts : left.start ≤ right.start) (stops : left.stop ≤ right.stop) :
    left.merge right = ⟨left.start, right.stop⟩ := by
  rw [merge, Position.earlier_eq_min, Position.later_eq_max, min_eq_left starts,
    max_eq_right stops]

theorem Holds.nil (filled : span.Filled) : span.Holds [] :=
  ⟨filled, fun _ member => absurd member List.not_mem_nil⟩

theorem Holds.cons (within : part.Within span) (holds : span.Holds parts) :
    span.Holds (part :: parts) :=
  ⟨holds.1, List.forall_mem_cons.mpr ⟨within, holds.2⟩⟩

end Text.Span

namespace Parser

open Reader

/-! ## Tokens in order -/

/-- The names that the token stands for are as they should be, and lie within the token. -/
structure Spelled (named : Name → Prop) (token : Token) : Prop where
  word : token.kind = .identifier → named ⟨token.text, token.span⟩
  parts : token.kind = .identifier ∨ token.kind.isReserved →
    ∀ part ∈ dottedNames token, part.text ≠ "" →
      part.span.Within token.span ∧ part.Nested named

theorem Spelled.mono {named named' : Name → Prop} {token : Token} (spelled : Spelled named token)
    (weaker : ∀ name, named name → named' name) : Spelled named' token where
  word kind := weaker _ (spelled.word kind)
  parts kind part member some :=
    (spelled.parts kind part member some).imp id (And.imp id (weaker part))

namespace Cursor

/-- Where the next token begins. -/
def here (cursor : Cursor) : Position :=
  cursor.current.span.start

/-- Where the next token ends. -/
def edge (cursor : Cursor) : Position :=
  cursor.current.span.stop

/-- The tokens follow each other in the text, and none of them but the end of input is empty. -/
structure Laid (named : Name → Prop) (cursor : Cursor) : Prop where
  filled : ∀ token ∈ cursor.rest, token.span.Filled
  ordered : cursor.rest.Pairwise fun token other => token.span.Before other.span
  last : ∀ token ∈ cursor.rest, token.span.Before cursor.stop.span
  empty : cursor.stop.span.start = cursor.stop.span.stop
  spelled : ∀ token ∈ cursor.rest, Spelled named token

namespace Laid

variable {named : Name → Prop} {cursor behind : Cursor}

theorem mono {named' : Name → Prop} (laid : cursor.Laid named)
    (weaker : ∀ name, named name → named' name) : cursor.Laid named' :=
  { laid with spelled := fun token member => (laid.spelled token member).mono weaker }

theorem of_reaches (laid : cursor.Laid named) (reaches : cursor.Reaches behind) :
    behind.Laid named where
  filled := fun token member => laid.filled token (reaches.rest.subset member)
  ordered := laid.ordered.sublist reaches.rest.sublist
  last := fun token member => reaches.stop ▸ laid.last token (reaches.rest.subset member)
  empty := reaches.stop ▸ laid.empty
  spelled := fun token member => laid.spelled token (reaches.rest.subset member)

theorem current_mem (inside : cursor.kind ≠ .endOfInput) : cursor.current ∈ cursor.rest := by
  cases remaining : cursor.rest with
  | nil => exact absurd (by rw [kind, current, remaining]; exact cursor.stop_kind) inside
  | cons first rest => simp [current, remaining]

theorem here_lt_edge (laid : cursor.Laid named) (inside : cursor.kind ≠ .endOfInput) :
    cursor.here < cursor.edge :=
  laid.filled _ (current_mem inside)

theorem here_le_edge (laid : cursor.Laid named) : cursor.here ≤ cursor.edge := by
  cases remaining : cursor.rest with
  | nil =>
      rw [here, edge, current, remaining]
      exact le_of_eq laid.empty
  | cons first rest =>
      rw [here, edge, current, remaining]
      exact le_of_lt (laid.filled first (remaining ▸ List.mem_cons_self))

/-- Behind the next token there is nothing before its end. -/
theorem edge_le_here {first : Token} {rest : List Token} (laid : cursor.Laid named)
    (split : cursor.rest = first :: rest) (later : behind.rest <:+ rest)
    (same : behind.stop = cursor.stop) : first.span.stop ≤ behind.here := by
  have ordered := laid.ordered
  rw [split, List.pairwise_cons] at ordered
  cases remaining : behind.rest with
  | nil =>
      rw [here, current, remaining, List.headD_nil, same]
      exact laid.last first (split ▸ List.mem_cons_self)
  | cons second others =>
      rw [here, current, remaining, List.headD_cons]
      exact ordered.1 second (later.subset (remaining ▸ List.mem_cons_self))

/-- Later cursors stand before later tokens. -/
theorem le_of_reaches (laid : cursor.Laid named) (reaches : cursor.Reaches behind) :
    cursor.here ≤ behind.here ∧ cursor.edge ≤ behind.edge := by
  obtain ⟨passed, split⟩ := reaches.rest
  have same := reaches.stop
  cases passed with
  | nil =>
      rw [List.nil_append] at split
      rw [here, here, edge, edge, current, current, split, same]
      exact ⟨le_refl _, le_refl _⟩
  | cons first more =>
      have next : cursor.current = first := by rw [current, ← split]; rfl
      have passes : cursor.edge ≤ behind.here := by
        rw [edge, next]
        exact laid.edge_le_here split.symm ⟨more, rfl⟩ same
      have onward := (laid.of_reaches reaches).here_le_edge
      exact ⟨le_trans laid.here_le_edge passes, le_trans passes onward⟩

theorem edge_le_advance (laid : cursor.Laid named) : cursor.edge ≤ cursor.advance.here := by
  cases remaining : cursor.rest with
  | nil =>
      have next : cursor.current = cursor.stop := by rw [current, remaining]; rfl
      have next' : cursor.advance.current = cursor.stop := by simp [current, advance, remaining]
      rw [edge, here, next, next']
      exact le_of_eq laid.empty.symm
  | cons first rest =>
      have next : cursor.current = first := by rw [current, remaining]; rfl
      rw [edge, next]
      exact laid.edge_le_here remaining (by simp [advance, remaining]) rfl

end Laid

end Cursor

/-! ## Readers of laid out tokens -/

variable {α β : Type} {named : Name → Prop} {cursor : Cursor}

/-- Where the tokens are laid out, `good` holds of what the reader ends with. -/
structure Reader.Reads (named : Name → Prop) (reader : Reader α) (cursor : Cursor)
    (good : α → Cursor → Prop) : Prop where
  ends : cursor.Laid named →
    ∀ value behind, reader.run cursor = .ok (value, behind) → good value behind

/-- At every cursor the reader ends with a node that lies where its tokens are, and whose spans are
nested. -/
def Reader.ReadsNode [Node α] (named : Name → Prop) (reader : Reader α) : Prop :=
  ∀ cursor : Cursor, reader.Reads named cursor
    fun value behind => Sits named cursor.here behind.here value

namespace Reader.Reads

variable {good : α → Cursor → Prop}

theorem congr {reader reader' : Reader α} {behind : Cursor} (reaches : cursor.Reaches behind)
    (same : reader.run cursor = reader'.run behind) (reads : reader'.Reads named behind good) :
    reader.Reads named cursor good := by
  constructor
  intro laid
  rw [same]
  exact reads.ends (laid.of_reaches reaches)

theorem of_laid {reader : Reader α} (reads : cursor.Laid named → reader.Reads named cursor good) :
    reader.Reads named cursor good :=
  ⟨fun laid => (reads laid).ends laid⟩

theorem mono {reader : Reader α} {good' : α → Cursor → Prop}
    (reads : reader.Reads named cursor good')
    (kept : ∀ value behind, cursor.here ≤ behind.here → good' value behind → good value behind) :
    reader.Reads named cursor good := by
  constructor
  intro laid value behind outcome
  have later := (laid.le_of_reaches (reaches_of_ok outcome)).1
  exact kept value behind later (reads.ends laid value behind outcome)

theorem pure {value : α} (holds : good value cursor) :
    (pure value : Reader α).Reads named cursor good := by
  constructor
  intro laid value behind outcome
  cases outcome
  exact holds

theorem fail {fault : Fault} : (fail fault : Reader α).Reads named cursor good := by
  constructor
  intro laid value behind outcome
  cases outcome

theorem bind {reader : Reader β} {next : β → Reader α} {good' : β → Cursor → Prop}
    (first : reader.Reads named cursor good')
    (onward : ∀ value behind, cursor.here ≤ behind.here → cursor.edge ≤ behind.edge →
      good' value behind → (next value).Reads named behind good) :
    (reader >>= next).Reads named cursor good := by
  constructor
  intro laid value last outcome
  cases outcome' : reader.run cursor with
  | error failure =>
      rw [run_bind_of_error outcome'] at outcome
      cases outcome
  | ok result =>
      obtain ⟨read, behind⟩ := result
      rw [run_bind_of_ok outcome'] at outcome
      have reaches := reaches_of_ok outcome'
      obtain ⟨here, edge⟩ := laid.le_of_reaches reaches
      have holds := first.ends laid read behind outcome'
      exact (onward read behind here edge holds).ends (laid.of_reaches reaches) value last outcome

/-- A reader ends with what it ends with. -/
theorem itself {reader : Reader α} :
    reader.Reads named cursor fun value behind => reader.run cursor = .ok (value, behind) :=
  ⟨fun _ _ _ outcome => outcome⟩

/-- What holds of the outcome in two respects holds in both. -/
theorem and {reader : Reader α} {good' : α → Cursor → Prop}
    (reads : reader.Reads named cursor good) (reads' : reader.Reads named cursor good') :
    reader.Reads named cursor fun value behind => good value behind ∧ good' value behind :=
  ⟨fun laid value behind outcome =>
    ⟨reads.ends laid value behind outcome, reads'.ends laid value behind outcome⟩⟩

/-- Readers do not go back. -/
theorem passing {reader : Reader α} (reads : reader.Reads named cursor good) :
    reader.Reads named cursor fun value behind => good value behind ∧ cursor.Reaches behind :=
  (reads.and itself).mono fun _ _ _ holds => ⟨holds.1, reaches_of_ok holds.2⟩

/-- How far the first reader gets, and nothing else of it, matters. -/
theorem bind_behind {reader : Reader β} {next : β → Reader α}
    (onward : ∀ value behind, cursor.Reaches behind → (next value).Reads named behind good) :
    (reader >>= next).Reads named cursor good :=
  bind itself fun value behind _ _ outcome => onward value behind (reaches_of_ok outcome)

theorem peek_bind {next : Token → Reader α}
    (onward : (next cursor.current).Reads named cursor good) :
    (peek >>= next).Reads named cursor good :=
  ⟨onward.ends⟩

theorem peekKind_bind {next : TokenKind → Reader α}
    (onward : (next cursor.kind).Reads named cursor good) :
    (peekKind >>= next).Reads named cursor good :=
  ⟨onward.ends⟩

theorem take_bind {next : Token → Reader α}
    (onward : cursor.here ≤ cursor.edge → cursor.edge ≤ cursor.advance.here →
      (next cursor.current).Reads named cursor.advance good) :
    (Parser.take >>= next).Reads named cursor good :=
  of_laid fun laid => congr (.advance cursor) (run_bind_of_ok run_take)
    (onward laid.here_le_edge laid.edge_le_advance)

theorem require {fault : Fault} {reader : Reader (Option α)}
    (reads : reader.Reads named cursor
      fun found behind => ∀ value, found = some value → good value behind) :
    (Reader.require fault reader).Reads named cursor good := by
  constructor
  intro laid value behind outcome
  cases outcome' : reader.run cursor with
  | error failure =>
      rw [run_require_of_error outcome'] at outcome
      cases outcome
  | ok result =>
      obtain ⟨found, last⟩ := result
      cases found with
      | none =>
          rw [run_require_of_none outcome'] at outcome
          cases outcome
      | some found =>
          rw [run_require_of_some outcome'] at outcome
          cases outcome
          exact reads.ends laid _ _ outcome' value rfl

theorem takeAs {fault : Fault} {meaning? : Token → Option α}
    (holds : cursor.here ≤ cursor.edge → cursor.edge ≤ cursor.advance.here →
      ∀ value, meaning? cursor.current = some value → good value cursor.advance) :
    (takeAs fault meaning?).Reads named cursor good := by
  apply require
  apply take_bind
  intro opens closes
  exact pure (holds opens closes)

theorem take : Parser.take.ReadsNode named := by
  intro cursor
  constructor
  rintro laid _ _ ⟨⟩
  exact ⟨le_refl _, laid.edge_le_advance, trivial⟩

theorem expect_bind {kind : TokenKind} {next : Token → Reader α} (inside : kind ≠ .endOfInput)
    (onward : cursor.here < cursor.edge → cursor.edge ≤ cursor.advance.here →
      (next cursor.current).Reads named cursor.advance good) :
    (expect kind >>= next).Reads named cursor good := by
  by_cases found : cursor.kind = kind
  · exact of_laid fun laid => congr (.advance cursor) (run_bind_of_ok (run_expect_of_eq found))
      (onward (laid.here_lt_edge (found ▸ inside)) laid.edge_le_advance)
  · constructor
    intro _ value behind outcome
    rw [run_bind_of_error (run_expect_of_ne found)] at outcome
    cases outcome

theorem expectName_bind {role : NameRole} {next : Name → Reader α}
    (onward : cursor.here < cursor.edge → cursor.edge ≤ cursor.advance.here →
      Sits named cursor.here cursor.edge (⟨cursor.current.text, cursor.current.span⟩ : Name) →
      (next ⟨cursor.current.text, cursor.current.span⟩).Reads named cursor.advance good) :
    (expectName role >>= next).Reads named cursor good := by
  by_cases found : cursor.kind = .identifier
  · apply of_laid
    intro laid
    have inside : cursor.kind ≠ .endOfInput := by rw [found]; decide
    have filled := laid.here_lt_edge inside
    have word := (laid.spelled _ (Cursor.Laid.current_mem inside)).word found
    exact congr (.advance cursor) (run_bind_of_ok (run_expectName_of_eq found))
      (onward filled laid.edge_le_advance ⟨le_refl _, le_refl _, filled, word⟩)
  · constructor
    intro _ value behind outcome
    rw [run_bind_of_error (run_expectName_of_ne found)] at outcome
    cases outcome

theorem accept_bind {kind : TokenKind} {next : Bool → Reader α}
    (present : cursor.here ≤ cursor.edge → cursor.edge ≤ cursor.advance.here →
      (next true).Reads named cursor.advance good)
    (absent : (next false).Reads named cursor good) :
    (accept kind >>= next).Reads named cursor good := by
  by_cases found : cursor.kind = kind
  · exact of_laid fun laid => congr (.advance cursor) (run_bind_of_ok (run_accept_of_eq found))
      (present laid.here_le_edge laid.edge_le_advance)
  · exact congr (.refl cursor) (run_bind_of_ok (run_accept_of_ne found)) absent

theorem optionalAfter {kind : TokenKind} {item : Reader α} {good : Option α → Cursor → Prop}
    (present : cursor.here ≤ cursor.advance.here →
      item.Reads named cursor.advance fun value behind => good (some value) behind)
    (absent : good none cursor) : (optionalAfter kind item).Reads named cursor good := by
  unfold Parser.optionalAfter
  apply accept_bind
  · intro opens closes
    rw [if_pos rfl]
    apply bind (present (le_trans opens closes))
    intro value behind _ _ holds
    exact pure holds
  · exact pure absent

/-! ### Repetition -/

/-- What holds before a repetition and is kept by each of its steps holds behind it. -/
theorem steps (invariant : α → Cursor → Prop) {continues : TokenKind → Bool} {step : α → Reader α}
    {start : α} (initial : invariant start cursor)
    (kept : ∀ value here, cursor.here ≤ here.here → invariant value here →
      (step value).Reads named here invariant) :
    (Reader.steps continues step start).Reads named cursor invariant := by
  -- The induction is on the tokens left, over every state that the repetition passes through.
  have passing : ∀ count value (here : Cursor), here.left = count → cursor.here ≤ here.here →
      invariant value here → (Reader.steps continues step value).Reads named here invariant := by
    intro count
    induction count using Nat.strongRecOn with
    | ind count ih =>
        intro value here size later holds
        constructor
        intro laid
        by_cases admitted : continues here.kind
        · have once := (kept value here later holds).ends laid
          have reaches := (step value).forward here
          cases outcome : (step value).run here with
          | error error =>
              rw [run_steps_of_error admitted outcome]
              intro _ _ failed
              cases failed
          | ok result =>
              obtain ⟨next, behind⟩ := result
              rw [outcome] at reaches
              have holds' := once next behind outcome
              have later' := le_trans later (laid.le_of_reaches reaches).1
              by_cases shorter : behind.left < here.left
              · rw [run_steps_of_ok admitted outcome shorter]
                exact (ih behind.left (size ▸ shorter) next behind rfl later' holds').ends
                  (laid.of_reaches reaches)
              · rw [run_steps_of_last admitted outcome shorter]
                rintro _ _ ⟨⟩
                exact holds'
        · rw [run_steps_of_stop (by simpa using admitted)]
          rintro _ _ ⟨⟩
          exact holds
  exact passing cursor.left start cursor rfl (le_refl _) initial

theorem repeatWhile_of (invariant : List α → Cursor → Prop) {continues : TokenKind → Bool}
    {item : Reader α} (initial : invariant [] cursor)
    (kept : ∀ values here, cursor.here ≤ here.here → invariant values here →
      item.Reads named here fun value behind => invariant (values ++ [value]) behind) :
    (repeatWhile continues item).Reads named cursor invariant := by
  unfold Parser.repeatWhile collect
  apply bind
  · apply steps (fun reversed here => invariant reversed.reverse here) initial
    intro reversed here later holds
    apply bind (kept reversed.reverse here later holds)
    intro value behind _ _ holds'
    apply pure
    rwa [List.reverse_cons]
  · intro reversed behind _ _ holds
    exact pure holds

/-- What holds of each item where it is read, and is kept on the way back, holds of all items where
the repetition begins. -/
theorem repeatWhile_each (good : Cursor → α → Prop) {continues : TokenKind → Bool}
    {item : Reader α}
    (back : ∀ {cursor here value}, cursor.Reaches here → good here value → good cursor value)
    (once : ∀ here : Cursor, item.Reads named here fun value _ => good here value) :
    (Parser.repeatWhile continues item).Reads named cursor
      fun values _ => ∀ value ∈ values, good cursor value := by
  have steps : (Parser.repeatWhile continues item).Reads named cursor fun values behind =>
      cursor.Reaches behind ∧ ∀ value ∈ values, good cursor value := by
    apply repeatWhile_of fun (values : List α) here =>
      cursor.Reaches here ∧ ∀ value ∈ values, good cursor value
    · exact ⟨.refl cursor, fun _ member => absurd member List.not_mem_nil⟩
    · rintro values here - ⟨reaches, before⟩
      apply (once here).passing.mono
      rintro value behind - ⟨holds, onward⟩
      exact ⟨reaches.trans onward, List.forall_mem_append.mpr
        ⟨before, List.forall_mem_singleton.mpr (back reaches holds)⟩⟩
  exact steps.mono fun _ _ _ holds => holds.2

variable [Node α]

theorem repeatWhile {continues : TokenKind → Bool} {item : Reader α}
    (once : item.ReadsNode named) :
    (repeatWhile continues item).Reads named cursor
      fun values behind => SitAll named cursor.here behind.here values := by
  apply repeatWhile_of (fun values here => SitAll named cursor.here here.here values) .nil
  intro values here later all
  apply (once here).mono
  intro value behind passed sits
  exact all.append (.one sits) later passed

theorem commaSeparated {item : Reader α} (once : item.ReadsNode named) :
    (commaSeparated item).Reads named cursor
      fun values behind => SitAll named cursor.here behind.here values := by
  unfold Parser.commaSeparated
  apply bind (once cursor)
  intro first behind passed _ sits
  apply bind
  · apply repeatWhile
    intro here
    apply take_bind
    intro opens closes
    apply (once here.advance).mono
    intro value last _ sits'
    exact sits'.widen (le_trans opens closes) (le_refl _)
  · intro others last passed' _ all
    exact pure ((SitAll.one sits).append all passed passed')

theorem optional {kind : TokenKind} {item : Reader α} (once : item.ReadsNode named) :
    (Parser.optionalAfter kind item).Reads named cursor
      fun found behind => ∀ value ∈ found, Sits named cursor.here behind.here value := by
  apply optionalAfter
  · intro later
    apply (once cursor.advance).mono
    rintro value behind _ sits _ ⟨⟩
    exact sits.widen later (le_refl _)
  · exact fun _ member => nomatch member

/-- What is kept by the step of a recursion holds of the recursive reader. -/
theorem knot {α : Type} {good : Cursor → α → Cursor → Prop} {fault : Fault}
    {step : Reader α → Reader α}
    (kept : ∀ reader : Reader α, (∀ here, reader.Reads named here (good here)) →
      ∀ here, (step reader).Reads named here (good here)) (cursor : Cursor) :
    (Reader.knot fault step).Reads named cursor (good cursor) := by
  have unrolled : ∀ depth here,
      (Reader.unroll fault step depth).Reads named here (good here) := by
    intro depth
    induction depth with
    | zero => exact fun here => fail
    | succ depth ih => exact fun here => ⟨(kept _ ih here).ends⟩
  exact ⟨(unrolled (cursor.left + 1) cursor).ends⟩

end Reader.Reads

end Parser

end RapidLang
